import AssetRegistry.Json.Record

namespace AssetRegistry

/-- The algorithms that headers may name. Tokens of the registry use the first one. -/
inductive Algorithm where
  | hs256 | hs384 | hs512 | es256 | es384 | rs256 | rs384 | rs512 | ps256 | ps384 | ps512 | edDSA
  deriving DecidableEq, Repr

instance : Vocabulary Algorithm where
  all := [.hs256, .hs384, .hs512, .es256, .es384, .rs256, .rs384, .rs512, .ps256, .ps384, .ps512, .edDSA]
  label
    | .hs256 => "HS256"
    | .hs384 => "HS384"
    | .hs512 => "HS512"
    | .es256 => "ES256"
    | .es384 => "ES384"
    | .rs256 => "RS256"
    | .rs384 => "RS384"
    | .rs512 => "RS512"
    | .ps256 => "PS256"
    | .ps384 => "PS384"
    | .ps512 => "PS512"
    | .edDSA => "EdDSA"
  noun := "algorithm"
  typeName := "Algorithm"

open Json

/-- A key has these strings besides its own kind. -/
def keyMembers : List (String × List String) :=
  [("EC", ["crv", "x", "y"]), ("RSA", ["n", "e"]), ("oct", ["k"]), ("OKP", ["crv", "x"])]

def hasText (entries : List (String × Json)) (key : String) : Bool :=
  match entries.lookup key with
  | some (.text _) => true
  | _ => false

/-- A key written out in a header. It is not used, but has to be well formed. -/
def isKey : Json → Bool
  | .object entries =>
    match entries.lookup "kty" with
    | some (.text kind) => ((keyMembers.lookup kind).map fun members => members.all (hasText entries)).getD false
    | _ => false
  | _ => false

def readKey (depth : Nat) (cs : List Char) : Outcome Unit :=
  (readWritten depth cs).andThen fun j =>
    if isKey j then .ok () else .error (.unreadable "no match for a key")

def texts : Decoder (List String) where
  ofJson
    | .array items => items.mapM Decoder.text.ofJson
    | j => .error (.wrongType j.found "a sequence")
  read depth cs :=
    match skipSpace cs with
    | '[' :: rest =>
      (readItems (Decoder.text.read depth) (rest.length + 1) 0 rest).bind fun items rest =>
        (closeList rest).map fun _ => items
    | cs => readUnwanted "a sequence" cs

def headerRecord : Record :=
  let key : Decoder Unit := ⟨fun j => if isKey j then .ok () else .error (.unreadable "no match for a key"), readKey⟩
  ⟨"Header",
    [.optional "typ" .text, .required "alg" (.label (α := Algorithm)), .optional "cty" .text, .optional "jku" .text,
     .optional "jwk" key, .optional "kid" .text, .optional "x5u" .text, .optional "x5c" texts, .optional "x5t" .text,
     .optional "x5t#S256" .text]⟩

def headerDecoder : Decoder Algorithm := headerRecord.decoder fun (_, algorithm, _) => algorithm

def issuedHeader : Json := .object [("typ", .text "JWT"), ("alg", .text (label Algorithm.hs256))]

end AssetRegistry
