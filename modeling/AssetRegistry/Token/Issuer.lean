import AssetRegistry.Access.Fault
import AssetRegistry.Digest.Hmac
import AssetRegistry.Json.Printer
import AssetRegistry.Text.Base64
import AssetRegistry.Text.Split
import AssetRegistry.Token.Claims
import AssetRegistry.Token.Header

namespace AssetRegistry

/-- Who issues tokens: a secret that is not empty, and the lifetimes of both kinds of tokens in seconds. -/
structure Issuer where
  secret : Text.Bytes
  accessLifetime : Int
  refreshLifetime : Int
  deriving DecidableEq

namespace Issuer

/-- Spans of time are counted in milliseconds of 64 bits. -/
def lifetime? (count : Int64) (unit : Int) : Option Int :=
  let seconds := count.toInt * unit
  if -Int64.maxValue.toInt ≤ seconds * 1000 && seconds * 1000 ≤ Int64.maxValue.toInt then some seconds else none

/-- The issuer that some settings describe. The lifetimes are looked at before the secret. -/
def ofSettings (secret : String) (accessMinutes refreshHours : Int64) : Except AuthError Issuer := do
  let some accessLifetime := lifetime? accessMinutes 60 | throw (.invalidTtl "JWT_ACCESS_TTL_MINUTES")
  let some refreshLifetime := lifetime? refreshHours 3600 | throw (.invalidTtl "JWT_REFRESH_TTL_HOURS")
  if secret.isEmpty then throw .invalidSecret
  pure { secret := Text.utf8 secret, accessLifetime, refreshLifetime }

def encodePart (j : Json) : List Char := Text.toBase64 (Text.utf8 j.toText)

def signature (i : Issuer) (signed : List Char) : List Char :=
  Text.toBase64 (Digest.hmac i.secret (signed.flatMap String.utf8EncodeChar))

/-- A token is three parts with points between them: header and claims as documents in base 64, and a signature over
both. -/
def sign (i : Issuer) (claims : Json) : String :=
  let signed := encodePart issuedHeader ++ '.' :: encodePart claims
  .ofList (signed ++ '.' :: i.signature signed)

/-- The second at which a token issued now expires. -/
def expiry (now : Instant) (lifetime : Int) : Except AuthError Int64 :=
  match now.addSeconds? lifetime with
  | some t => .ok (Int64.ofInt t.seconds)
  | none => .error .beyondCalendar

def issueAccess (i : Issuer) (now : Instant) (userId : Uuid) (role : Role) : Except AuthError String := do
  let expires ← expiry now i.accessLifetime
  let claims : AccessClaims := { userId, role, kind := .access, expires, issued := Int64.ofInt now.seconds }
  pure (i.sign claims.toJson)

/-- A token with which a user may renew the other kind. -/
def issueRefresh (i : Issuer) (now : Instant) (userId : Uuid) : Except AuthError String := do
  let expires ← expiry now i.refreshLifetime
  let claims : RefreshClaims := { userId, kind := .refresh, expires, issued := Int64.ofInt now.seconds }
  pure (i.sign claims.toJson)

/-- Why a token is not accepted. -/
inductive Refusal where
  | notThreeParts
  | badBase64 (fault : Text.Base64Fault)
  | badDocument (why : String)
  | wrongAlgorithm
  | wrongSignature
  | noExpiry
  | expired
  | foreignAudience
  | wrongKind (expected : TokenKind)
  deriving DecidableEq, Repr

def Refusal.toError : Refusal → AuthError
  | .notThreeParts => .invalidToken "InvalidToken"
  | .badBase64 fault => .invalidToken ("Base64 error: " ++ fault.message)
  | .badDocument why => .invalidToken ("JSON error: " ++ why)
  | .wrongAlgorithm => .invalidToken "InvalidAlgorithm"
  | .wrongSignature => .invalidToken "InvalidSignature"
  | .noExpiry => .invalidToken "Missing required claim: exp"
  | .expired => .expired
  | .foreignAudience => .invalidToken "InvalidAudience"
  | .wrongKind expected => .invalidToken ("expected " ++ expected.title ++ " token")

def partBytes (part : List Char) : Except Refusal Text.Bytes := (Text.ofBase64 part).mapError .badBase64

/-- Reads the document in some bytes. Bytes that are no text are a fault, but an earlier one is told first. -/
def readPart {α : Type} (d : Json.Decoder α) (bytes : Text.Bytes) : Except Refusal α :=
  match Text.ofUtf8? bytes, (d.readDocument (Text.ofUtf8Lossy bytes).toList).mapError .badDocument with
  | none, .ok _ => .error (.badDocument "invalid unicode code point")
  | _, read => read

/-- A token is accepted this many seconds after it has expired. -/
def leeway : Int := 60

/-- The claims part of a token whose header and signature are good. -/
def openToken (i : Issuer) (token : String) : Except Refusal (List Char) := do
  let some (signed, signature) := Text.splitLast '.' token.toList | throw .notThreeParts
  let some (header, claims) := Text.splitLast '.' signed | throw .notThreeParts
  let algorithm ← readPart headerDecoder (← partBytes header)
  if algorithm ≠ .hs256 then throw .wrongAlgorithm
  if signature ≠ i.signature signed then throw .wrongSignature
  pure claims

/-- The checks that do not depend on the kind of the token. `now` is absent where expiry does not matter. -/
def check (now : Option Instant) (c : Checked) : Except Refusal Unit := do
  let some expires := c.expires | throw .noExpiry
  if now.any fun now => (expires : Int) < now.seconds - leeway then throw .expired
  if c.audience.isSome then throw .foreignAudience

def decode {α : Type} (i : Issuer) (now : Option Instant) (d : Json.Decoder α) (token : String) :
    Except Refusal α := do
  let bytes ← partBytes (← i.openToken token)
  let claims ← readPart d bytes
  check now (← readPart Checked.decoder bytes)
  pure claims

/-- A token of one kind is no token of the other. -/
def expectKind (actual expected : TokenKind) : Except Refusal Unit :=
  if actual = expected then .ok () else .error (.wrongKind expected)

def decodeAccess (i : Issuer) (now : Option Instant) (token : String) : Except AuthError AccessClaims :=
  Except.mapError Refusal.toError do
    let claims ← i.decode now AccessClaims.decoder token
    expectKind claims.kind .access
    pure claims

/-- The claims of an access token that has not expired. -/
def verifyAccess (i : Issuer) (now : Instant) (token : String) : Except AuthError AccessClaims :=
  i.decodeAccess (some now) token

/-- The claims of an access token, expired or not. -/
def decodeExpiredAccess (i : Issuer) (token : String) : Except AuthError AccessClaims := i.decodeAccess none token

/-- The claims of a refresh token that has not expired. -/
def verifyRefresh (i : Issuer) (now : Instant) (token : String) : Except AuthError RefreshClaims :=
  Except.mapError Refusal.toError do
    let claims ← i.decode (some now) RefreshClaims.decoder token
    expectKind claims.kind .refresh
    pure claims

end Issuer

end AssetRegistry
