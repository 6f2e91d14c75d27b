import AssetRegistry.Web.Message

namespace AssetRegistry.Web

def isToken (c : Char) : Bool :=
  ('a' ≤ c && c ≤ 'z') || ('A' ≤ c && c ≤ 'Z') || ('0' ≤ c && c ≤ '9') || "!#$%&'*+-.^_`|~".toList.contains c

/-- What stands between the quotes of a parameter's value. -/
def isQuotable (c : Char) : Bool := c.toNat = 9 || (0x20 ≤ c.toNat && c.toNat != 0x7F)

/-- Where a reader of parameters stands. -/
inductive ParamPlace where
  /-- Before a name; blanks may come first. -/
  | before
  | name
  /-- Behind the equals sign. -/
  | value
  | plain
  | quoted (isEmpty : Bool)
  /-- Behind a backslash between quotes. -/
  | escaped
  /-- Behind the closing quote. -/
  | after

/-- Parameters as they follow a semicolon: names and values, more semicolons between them. There may be none, and the last
value may be missing. -/
def areParams : ParamPlace → List Char → Bool
  | .before, [] => true
  | .value, [] => true
  | .plain, [] => true
  | .after, [] => true
  | _, [] => false
  | place, c :: rest =>
    match place with
    | .before => if c = ' ' then areParams .before rest else isToken c && areParams .name rest
    | .name => if c = '=' then areParams .value rest else isToken c && areParams .name rest
    | .value => if c = '"' then areParams (.quoted true) rest else isToken c && areParams .plain rest
    | .plain => if c = ';' then areParams .before rest else isToken c && areParams .plain rest
    | .quoted isEmpty =>
      if c = '"' && !isEmpty then areParams .after rest
      else if c = '\\' then areParams .escaped rest
      else isQuotable c && areParams (.quoted false) rest
    | .escaped => isQuotable c && areParams (.quoted false) rest
    | .after => if c = ';' then areParams .before rest else c = ' ' && areParams .after rest

/-- What stands before and after the last plus sign that is not the first character. -/
def splitSuffix (cs : List Char) : List Char × Option (List Char) :=
  let suffix := cs.reverse.takeWhile (· != '+')
  let before := (cs.reverse.drop (suffix.length + 1)).reverse
  if before.isEmpty then (cs, none) else (before, some suffix.reverse)

/-- The type `application` with the subtype or the suffix `json`, in either case, and well-formed parameters. -/
def isJsonType (s : String) : Bool :=
  let lower := s.toList.map Char.toLower
  let (main, rest) := Text.splitFirst '/' lower
  let sub := rest.takeWhile (· != ';')
  let params := rest.dropWhile (· != ';')
  let (subtype, suffix) := splitSuffix sub
  main = "application".toList && !sub.isEmpty && sub.all isToken &&
    (params.isEmpty || areParams .before (params.drop 1)) &&
    (subtype = "json".toList || suffix = some "json".toList)

/-- The body of a request claims to be a JSON document. -/
def Request.hasJson (r : Request) : Bool :=
  ((r.header? "content-type").bind headerText?).any isJsonType

end AssetRegistry.Web
