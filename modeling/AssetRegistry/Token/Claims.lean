import AssetRegistry.Json.Record
import AssetRegistry.Json.Scalar

namespace AssetRegistry

/-- Access tokens name a user and the role the user acts in, refresh tokens the user alone. -/
inductive TokenKind where
  | access
  | refresh
  deriving DecidableEq, Repr

instance : Vocabulary TokenKind where
  all := [.access, .refresh]
  label
    | .access => "access"
    | .refresh => "refresh"
  noun := "token kind"
  typeName := "TokenKind"

def TokenKind.title : TokenKind → String
  | .access => "Access"
  | .refresh => "Refresh"

/-- The claims of an access token, times in seconds since the beginning of 1970. -/
structure AccessClaims where
  userId : Uuid
  role : Role
  kind : TokenKind
  expires : Int64
  issued : Int64
  deriving DecidableEq

/-- The claims of a refresh token. -/
structure RefreshClaims where
  userId : Uuid
  kind : TokenKind
  expires : Int64
  issued : Int64
  deriving DecidableEq

open Json

def AccessClaims.record : Record :=
  ⟨"Claims",
    [.required "user_id" .uuid, .required "role" (.label (α := Role)), .required "kind" (.label (α := TokenKind)),
     .required "exp" .int64, .required "iat" .int64]⟩

def AccessClaims.decoder : Decoder AccessClaims :=
  record.decoder fun (userId, role, kind, expires, issued, _) => { userId, role, kind, expires, issued }

def AccessClaims.toJson (c : AccessClaims) : Json :=
  .object
    [("user_id", c.userId.toJson), ("role", Vocabulary.toJson c.role), ("kind", Vocabulary.toJson c.kind),
     ("exp", .whole c.expires.toInt), ("iat", .whole c.issued.toInt)]

def RefreshClaims.record : Record :=
  ⟨"RefreshClaims",
    [.required "user_id" .uuid, .required "kind" (.label (α := TokenKind)), .required "exp" .int64,
     .required "iat" .int64]⟩

def RefreshClaims.decoder : Decoder RefreshClaims :=
  record.decoder fun (userId, kind, expires, issued, _) => { userId, kind, expires, issued }

def RefreshClaims.toJson (c : RefreshClaims) : Json :=
  .object
    [("user_id", c.userId.toJson), ("kind", Vocabulary.toJson c.kind), ("exp", .whole c.expires.toInt),
     ("iat", .whole c.issued.toInt)]

/-- Reads what can be read: a value that cannot is as good as none, and reading goes on where it stopped. -/
def forgive {α : Type} : Outcome (Option α) → Outcome (Option α)
  | .ok a rest => .ok a rest
  | .fail _ rest => .ok none rest

/-- A point in time as a whole number that is not negative. -/
def timeOf? : Json → Option Nat
  | .whole n => if 0 ≤ n then some n.toNat else none
  | _ => none

/-- Reads a point in time. Of a list or an object no more than the end is looked for. -/
def readTime (cs : List Char) : Outcome (Option Nat) :=
  forgive <| match skipSpace cs with
    | '[' :: rest => (closeList rest).map fun _ => none
    | c :: rest =>
      if c = Char.ofNat 0x7B then (closeObject rest).map fun _ => none
      else (readValue 1 (c :: rest)).map timeOf?
    | [] => malformed .endInValue []

def isTextList : Json → Bool
  | .array items => items.all fun
    | .text _ => true
    | _ => false
  | _ => false

/-- The audience of a token is a string or a list of strings; anything else is none. -/
def audienceOf? : Json → Option Json
  | .text s => some (.text s)
  | j => if isTextList j then some j else none

def readAudience (depth : Nat) (cs : List Char) : Outcome (Option Json) :=
  forgive <| match skipSpace cs with
    | 'n' :: rest => readWord none "ull".toList rest
    | cs => (readWritten depth cs).map audienceOf?

/-- What every token is checked for, whatever else it says. -/
structure Checked where
  expires : Option Nat
  audience : Option Json

/-- The checked claims; the ones that are read but not used have to be there in an array. -/
def Checked.record : Record :=
  let time : Decoder (Option Nat) := ⟨fun j => .ok (timeOf? j), fun _ cs => readTime cs⟩
  let subject : Decoder (Option String) :=
    ⟨fun _ => .ok none, fun depth cs => forgive (Decoder.text.option.read depth cs)⟩
  let audience : Decoder (Option Json) := ⟨fun j => .ok (audienceOf? j), readAudience⟩
  ⟨"ClaimsForValidation",
    [.withDefault "exp" time none, .withDefault "nbf" time none,
     { Field.required "sub" subject with whenAbsent := some none },
     { Field.required "iss" audience with whenAbsent := some none },
     { Field.required "aud" audience with whenAbsent := some none }]⟩

def Checked.decoder : Decoder Checked :=
  record.decoder fun (expires, _, _, _, audience, _) => { expires, audience }

end AssetRegistry
