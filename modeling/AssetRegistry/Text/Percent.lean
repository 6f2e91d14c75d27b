import AssetRegistry.Text.Bytes
import AssetRegistry.Text.Split

namespace AssetRegistry.Text

/-- The byte an escape stands for, given the two characters after the percent sign. -/
def escapedByte? (high low : UInt8) : Option UInt8 := do
  let h ← hexValue? (Char.ofNat high.toNat)
  let l ← hexValue? (Char.ofNat low.toNat)
  some (UInt8.ofNat (h * 16 + l))

/-- Replaces each escape by its byte. A percent sign that begins no escape stays. -/
def unescape : Bytes → Bytes
  | 0x25 :: high :: low :: rest =>
    match escapedByte? high low with
    | some b => b :: unescape rest
    | none => 0x25 :: unescape (high :: low :: rest)
  | b :: rest => b :: unescape rest
  | [] => []
termination_by bytes => bytes.length

def escapeByte (b : UInt8) : List Char :=
  let upperDigit (n : Nat) : Char := if n < 10 then Char.ofNat (48 + n) else Char.ofNat (55 + n)
  ['%', upperDigit (b.toNat / 16), upperDigit (b.toNat % 16)]

/-- Writes every character that `reserved` names, and every character beyond ASCII, as escapes of its bytes. -/
def escapeWhere (reserved : Char → Bool) (s : List Char) : List Char :=
  s.flatMap fun c =>
    if reserved c || 0x7F ≤ c.toNat || c.toNat < 0x20 then (String.utf8EncodeChar c).flatMap escapeByte else [c]

def formText (bytes : Bytes) : String :=
  ofUtf8Lossy (unescape (bytes.map fun b => if b = 0x2B then 0x20 else b))

/-- The name and value pairs of a query string, in order. Empty pieces between ampersands are no pairs. -/
def formPairs (query : String) : List (String × String) :=
  ((splitAll 0x26 (utf8 query)).filter (!·.isEmpty)).map fun piece =>
    let (name, value) := splitFirst 0x3D piece
    (formText name, formText value)

end AssetRegistry.Text
