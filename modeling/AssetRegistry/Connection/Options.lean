import AssetRegistry.Connection.Url
import AssetRegistry.Settings
import AssetRegistry.Store.Fault

namespace AssetRegistry.Connection

/-- What the store is told when a connection begins, and where and how it is reached. -/
structure Options where
  host : String
  tcpPort : UInt16
  user : String
  password : Option String
  database : Option String
  /-- Session variables as arguments of a command line. -/
  options : Option String
  deriving DecidableEq, Repr

namespace Options

/-- The text that escapes stand for, if it is one. -/
def unescaped? (s : String) : Option String := Text.ofUtf8? (Text.unescape (Text.utf8 s))

/-- Where the store is found. A host that begins with an escaped slash is a place in the file system and has to be text; an
address without a host means this machine. -/
def reached? (host : String) : Option String :=
  match host.toList with
  | [] => some "localhost"
  | '%' :: '2' :: c :: _ => if c = 'F' || c = 'f' then unescaped? host else some host
  | _ => some host

def addOptions (o : Options) (text : String) : Options :=
  { o with options := some (o.options.elim text fun before => if before.isEmpty then text else before ++ " " ++ text) }

def setVariable (o : Options) (name value : String) : Options := o.addOptions ("-c " ++ name ++ "=" ++ value)

/-- The names of the ways to protect a connection. -/
def protections : List String := ["disable", "allow", "prefer", "require", "verify-ca", "verify-full"]

def variableName? (key : String) : Option String :=
  let mark := "options[".toList
  if mark.isPrefixOf key.toList && key.toList.getLast? = some ']' then
    some (.ofList (key.toList.drop mark.length).dropLast)
  else none

/-- What a parameter of the address says; unknown parameters do not matter. -/
def withParameter (o : Options) (key value : String) : Option Options :=
  if key = "host" then some { o with host := value }
  else if key = "hostaddr" then
    if (shortAddress? value.toList).isSome || (longAddress? value.toList).isSome then some { o with host := value }
    else none
  else if key = "port" then (Settings.uint16? value).map fun n => { o with tcpPort := n }
  else if key = "dbname" then some { o with database := some value }
  else if key = "user" then some { o with user := value }
  else if key = "password" then some { o with password := some value }
  else if key = "options" then
    some { o with options := some (o.options.elim value fun before => before ++ " " ++ value) }
  else if key = "sslmode" || key = "ssl-mode" then
    if protections.contains (.ofList (value.toList.map Char.toLower)) then some o else none
  else if key = "statement-cache-capacity" then (Settings.uint64? value).map fun _ => o
  else match variableName? key with
    | some name => some (o.setVariable name value)
    | none => some o

/-- What an address says. `user` stands in where it names none. -/
def ofUrl? (user : String) (u : Url) : Option Options := do
  let a := u.authority.getD ⟨"", none, "", none⟩
  let host ← reached? a.host
  let user ← if a.user.isEmpty then some user else unescaped? a.user
  let password ← a.password.mapM unescaped?
  let path := String.ofList (u.path.toList.dropWhile (· = '/'))
  let options : Options :=
    { host
      tcpPort := a.tcpPort.getD 5432
      user
      password
      database := if path.isEmpty then none else some path
      options := none }
  (Text.formPairs (u.query.getD "")).foldlM (fun o pair => o.withParameter pair.1 pair.2) options

def ofSettings (user : String) (s : StoreSettings) : Except StoreError Options := do
  let some url := s.url | throw (.configMissing "DATABASE_URL")
  let some options := (Url.parse? url).bind (ofUrl? user) | throw .invalidUrl
  pure (if 0 < s.statementTimeout then
      options.setVariable "statement_timeout" (Text.ofNat s.statementTimeout.toNat)
    else options)

end Options

/-- The address without its password, for the log. -/
def redactedUrl (s : StoreSettings) : Option String := (s.url.bind Url.parse?).map fun u => u.redacted.toText

/-- The line that is logged when a connection has been made. -/
def connectionLine (s : StoreSettings) : String :=
  "Connected to database " ++ (redactedUrl s).getD "" ++ " (max_connections=" ++ Text.ofNat s.maxConnections.toNat ++
    ")"

end AssetRegistry.Connection
