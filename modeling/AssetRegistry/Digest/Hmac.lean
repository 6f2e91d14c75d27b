import AssetRegistry.Digest.Sha256

namespace AssetRegistry.Digest

open Text (Bytes)

/-- A key as one block: longer keys are replaced by their digest, shorter ones are filled up with zeros. -/
def keyBlock (key : Bytes) : Bytes :=
  let key := if 64 < key.length then sha256 key else key
  key ++ List.replicate (64 - key.length) 0

/-- The digest of a message under a key: the message is digested behind one mask of the key, and the result behind
another. -/
def hmac (key message : Bytes) : Bytes :=
  let block := keyBlock key
  sha256 (block.map (· ^^^ 0x5C) ++ sha256 (block.map (· ^^^ 0x36) ++ message))

end AssetRegistry.Digest
