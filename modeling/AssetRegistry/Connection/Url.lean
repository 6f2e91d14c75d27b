import AssetRegistry.Connection.InternetAddress
import AssetRegistry.Text.Percent
import AssetRegistry.Text.Split

namespace AssetRegistry.Connection

/-- What stands between scheme and path. -/
structure Authority where
  user : String
  /-- A password of no characters is as good as none. -/
  password : Option String
  host : String
  tcpPort : Option UInt16
  deriving DecidableEq, Repr

/-- An address with all its parts escaped as they are written. -/
structure Url where
  scheme : String
  authority : Option Authority
  path : String
  query : Option String
  fragment : Option String
  deriving DecidableEq, Repr

namespace Url

def fragmentReserved (c : Char) : Bool := " \"<>`".toList.contains c

def queryReserved (c : Char) : Bool := " \"#<>".toList.contains c

def pathReserved (c : Char) : Bool :=
  fragmentReserved c || ['#', '?', Char.ofNat 0x7B, Char.ofNat 0x7D].contains c

def userReserved (c : Char) : Bool := pathReserved c || "/:;=@[\\]^|".toList.contains c

def hostForbidden (c : Char) : Bool := c.toNat = 0 || " \t\n\r#/:<>?@[\\]^|".toList.contains c

def escape (reserved : Char → Bool) (cs : List Char) : String := .ofList (Text.escapeWhere reserved cs)

/-- Blanks and control characters at the ends, and tabs and line breaks anywhere, do not count. -/
def clean (s : String) : List Char :=
  let edge (c : Char) : Bool := c.toNat ≤ 0x20
  let cs := ((s.toList.dropWhile edge).reverse.dropWhile edge).reverse
  cs.filter fun c => !(c = '\t' || c = '\n' || c = '\r')

/-- The scheme in lower case, and what follows its colon. -/
def splitScheme? (cs : List Char) : Option (String × List Char) :=
  let scheme := cs.takeWhile (· != ':')
  let isInner (c : Char) : Bool := c.isAlphanum || c = '+' || c = '-' || c = '.'
  match scheme, cs.dropWhile (· != ':') with
  | c :: inner, _ :: rest =>
    if c.isAlpha && inner.all isInner then some (.ofList (scheme.map Char.toLower), rest) else none
  | _, _ => none

/-- Schemes whose addresses cannot do without a host. -/
def hostSchemes : List String := ["http", "https", "ws", "wss", "ftp"]

/-- The last at sign before the path ends the user information. -/
def splitUser (cs : List Char) : Option (List Char) × List Char :=
  match Text.splitLast '@' cs with
  | some (user, host) => (some user, host)
  | none => (none, cs)

/-- User and password, of which the password is everything behind the first colon. -/
def userParts (cs : List Char) : String × Option String :=
  let (user, password) := Text.splitFirst ':' cs
  (escape userReserved user, if password.isEmpty then none else some (escape userReserved password))

/-- A host and what follows it. In brackets it is a long numeric address. -/
def splitHost (cs : List Char) : List Char × List Char :=
  match cs with
  | '[' :: _ =>
    let inner := cs.takeWhile (· != ']')
    let rest := cs.drop (inner.length + 1)
    (cs.take (inner.length + 1) ++ rest.takeWhile (· != ':'), rest.dropWhile (· != ':'))
  | _ => (cs.takeWhile (· != ':'), cs.dropWhile (· != ':'))

def host? (cs : List Char) : Option String :=
  match cs with
  | '[' :: rest =>
    if rest.getLast? = some ']' then
      (longAddress? rest.dropLast).map fun pieces => "[" ++ longAddressText pieces ++ "]"
    else none
  | _ => if cs.any hostForbidden then none else some (escape (fun _ => false) cs)

/-- A colon and the number behind it, which may be left out. -/
def tcpPort? : List Char → Option (Option UInt16)
  | [] => some none
  | [_] => some none
  | _ :: digits => do
    let n ← Text.digits? digits
    if n < UInt16.size then some (some (UInt16.ofNat n)) else none

/-- What stands between the two slashes and the path. User information and numbers need a host; an at sign alone needs
one if anything follows. -/
def authority? (scheme : String) (isLast : Bool) (cs : List Char) : Option Authority := do
  let (userChars, cs) := splitUser cs
  let (hostChars, rest) := splitHost cs
  let host ← host? hostChars
  let tcpPort ← tcpPort? rest
  let (user, password) := userParts (userChars.getD [])
  if host.isEmpty && (hostSchemes.contains scheme || !rest.isEmpty || !user.isEmpty || password.isSome ||
      (userChars = some [] && !isLast)) then none
  else some { user, password, host, tcpPort }

/-- The piece of a path that stands for the place it is in. -/
def isHere (piece : String) : Bool := [".", "%2e", "%2E"].contains piece

/-- The piece of a path that stands for the place above. -/
def isAbove (piece : String) : Bool :=
  ["..", "%2e.", ".%2e", "%2e%2e"].contains (String.ofList (piece.toList.map Char.toLower))

/-- The pieces of a path without detours; `done` holds the ones before, the last one first. -/
def walk (done : List String) : List String → List String
  | [] => done.reverse
  | [piece] =>
    if isAbove piece then ("" :: done.drop 1).reverse
    else if isHere piece then ("" :: done).reverse
    else (piece :: done).reverse
  | piece :: rest =>
    if isAbove piece then walk (done.drop 1) rest
    else if isHere piece then walk done rest
    else walk (piece :: done) rest

def absolutePath (cs : List Char) : String :=
  "/" ++ String.intercalate "/" (walk [] ((Text.splitAll '/' cs).map (escape pathReserved)))

/-- The path behind an authority, which may be empty. -/
def pathAfterAuthority : List Char → String
  | [] => ""
  | '/' :: cs => absolutePath cs
  | cs => absolutePath cs

/-- A part behind its mark, if the mark is there. -/
def marked (reserved : Char → Bool) : List Char → Option String
  | [] => none
  | _ :: cs => some (escape reserved cs)

/-- The address that a text writes. -/
def parse? (s : String) : Option Url := do
  let (scheme, rest) ← splitScheme? (clean s)
  let beforeFragment := rest.takeWhile (· != '#')
  let fragment := marked fragmentReserved (rest.dropWhile (· != '#'))
  let main := beforeFragment.takeWhile (· != '?')
  let query := marked queryReserved (beforeFragment.dropWhile (· != '?'))
  match main with
  | '/' :: '/' :: cs =>
    let path := cs.dropWhile (· != '/')
    let isLast := path.isEmpty && query.isNone && fragment.isNone
    let authority ← authority? scheme isLast (cs.takeWhile (· != '/'))
    some { scheme, authority := some authority, path := pathAfterAuthority path, query, fragment }
  | '/' :: cs =>
    if hostSchemes.contains scheme then none
    else some { scheme, authority := none, path := absolutePath cs, query, fragment }
  | cs =>
    if hostSchemes.contains scheme then none
    else some { scheme, authority := none, path := escape (fun _ => false) cs, query, fragment }

/-- User information as it is written, with the at sign behind it. -/
def userText (a : Authority) : String :=
  match a.password with
  | some password => a.user ++ ":" ++ password ++ "@"
  | none => if a.user.isEmpty then "" else a.user ++ "@"

def authorityText (a : Authority) : String :=
  "//" ++ userText a ++ a.host ++ a.tcpPort.elim "" fun n => ":" ++ Text.ofNat n.toNat

/-- The text of an address. -/
def toText (u : Url) : String :=
  u.scheme ++ ":" ++ u.authority.elim "" authorityText ++ u.path ++ u.query.elim "" ("?" ++ ·) ++
    u.fragment.elim "" ("#" ++ ·)

/-- The address with its password hidden. -/
def redacted (u : Url) : Url :=
  { u with authority := u.authority.map fun a => { a with password := a.password.map fun _ => "****" } }

end Url

end AssetRegistry.Connection
