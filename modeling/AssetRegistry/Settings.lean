import AssetRegistry.Json.Basic
import AssetRegistry.Text.LetterCase
import AssetRegistry.Text.Numeral

namespace AssetRegistry

inductive Profile where
  | development
  | staging
  | production
  deriving DecidableEq, Repr

structure StoreSettings where
  url : Option String
  maxConnections : UInt32
  /-- Seconds to wait for a connection. -/
  connectionTimeout : UInt64
  /-- Milliseconds the store may work on one statement; zero means any time. -/
  statementTimeout : UInt64
  runMigrations : Bool
  deriving DecidableEq

structure ApiSettings where
  /-- The number under which the service listens. -/
  listensOn : UInt16
  /-- Seconds a request may take. -/
  requestTimeout : UInt64
  defaultPageSize : Int64
  maxPageSize : Int64
  deriving DecidableEq

structure SecuritySettings where
  secret : String
  accessMinutes : Int64
  refreshHours : Int64
  emailDomain : String
  enableCors : Bool
  deriving DecidableEq

structure Settings where
  profile : Profile
  store : StoreSettings
  api : ApiSettings
  security : SecuritySettings
  deriving DecidableEq

/-- The variables of the process by their names. One whose value is no text counts as not set. -/
abbrev Environment := String → Option String

namespace Settings

def variableNames : List String :=
  ["APP_ENV", "DATABASE_URL", "DATABASE_MAX_CONNECTIONS", "DATABASE_CONNECTION_TIMEOUT",
   "DATABASE_STATEMENT_TIMEOUT_MS", "DATABASE_RUN_MIGRATIONS", "STOREX_PORT", "PORT", "API_REQUEST_TIMEOUT_SECS",
   "API_DEFAULT_PAGE_SIZE", "API_MAX_PAGE_SIZE", "JWT_SECRET", "JWT_ACCESS_TTL_MINUTES", "JWT_REFRESH_TTL_HOURS",
   "AUTH_EMAIL_DOMAIN", "SECURITY_ENABLE_CORS"]

/-- The fields that a profile sets apart from the others. -/
def ofProfile : Profile → Settings
  | .development =>
    { profile := .development
      store := ⟨none, 10, 30, 0, true⟩
      api := ⟨8080, 60, 10, 100⟩
      security := ⟨"development-secret-change-me", 15, 168, "remotestate.com", true⟩ }
  | .staging =>
    { profile := .staging
      store := ⟨none, 20, 10, 15000, true⟩
      api := ⟨8080, 30, 10, 100⟩
      security := ⟨"", 15, 168, "remotestate.com", true⟩ }
  | .production =>
    { profile := .production
      store := ⟨none, 50, 5, 10000, false⟩
      api := ⟨8080, 15, 10, 100⟩
      security := ⟨"", 15, 168, "remotestate.com", false⟩ }

/-- The profile that a name stands for; any other name stands for development. -/
def profileOf : Option String → Profile
  | some name =>
    if name = "production" || name = "prod" then .production
    else if name = "staging" || name = "stage" then .staging
    else .development
  | none => .development

/-- A variable's value, if it reads as one of its field. -/
def override {α : Type} (env : Environment) (name : String) (read : String → Option α) (usual : α) : α :=
  ((env name).bind read).getD usual

def uint16? (s : String) : Option UInt16 := (Text.natural? (UInt16.size - 1) s).map UInt16.ofNat

def uint32? (s : String) : Option UInt32 := (Text.natural? (UInt32.size - 1) s).map UInt32.ofNat

def uint64? (s : String) : Option UInt64 := (Text.natural? (UInt64.size - 1) s).map UInt64.ofNat

/-- The number under which the service listens may be given by two variables; the second one counts only where the first
one is not set at all. -/
def listenVariable (env : Environment) : Option String := env "STOREX_PORT" <|> env "PORT"

def withOverrides (s : Settings) (env : Environment) : Settings where
  profile := s.profile
  store :=
    { url := env "DATABASE_URL" <|> s.store.url
      maxConnections := override env "DATABASE_MAX_CONNECTIONS" uint32? s.store.maxConnections
      connectionTimeout := override env "DATABASE_CONNECTION_TIMEOUT" uint64? s.store.connectionTimeout
      statementTimeout := override env "DATABASE_STATEMENT_TIMEOUT_MS" uint64? s.store.statementTimeout
      runMigrations := override env "DATABASE_RUN_MIGRATIONS" Text.flag? s.store.runMigrations }
  api :=
    { listensOn := ((listenVariable env).bind uint16?).getD s.api.listensOn
      requestTimeout := override env "API_REQUEST_TIMEOUT_SECS" uint64? s.api.requestTimeout
      defaultPageSize := override env "API_DEFAULT_PAGE_SIZE" Text.int64? s.api.defaultPageSize
      maxPageSize := override env "API_MAX_PAGE_SIZE" Text.int64? s.api.maxPageSize }
  security :=
    { secret := (env "JWT_SECRET").getD s.security.secret
      accessMinutes := override env "JWT_ACCESS_TTL_MINUTES" Text.int64? s.security.accessMinutes
      refreshHours := override env "JWT_REFRESH_TTL_HOURS" Text.int64? s.security.refreshHours
      emailDomain := ((env "AUTH_EMAIL_DOMAIN").map fun v => Text.lower (Text.trim v)).getD s.security.emailDomain
      enableCors := override env "SECURITY_ENABLE_CORS" Text.flag? s.security.enableCors }

/-- The settings of the profile, with single fields overridden by the variables of the environment. What does not read
as a value of its field overrides nothing. -/
def ofEnvironment (env : Environment) : Settings := (ofProfile (profileOf (env "APP_ENV"))).withOverrides env

def profileName : Profile → String
  | .development => "Development"
  | .staging => "Staging"
  | .production => "Production"

def toJson (s : Settings) : Json :=
  .object
    [("environment", .text (profileName s.profile)),
     ("database", .object
       [("url", .ofOption .text s.store.url), ("max_connections", .whole s.store.maxConnections.toNat),
        ("connection_timeout", .whole s.store.connectionTimeout.toNat),
        ("statement_timeout_ms", .whole s.store.statementTimeout.toNat),
        ("run_migrations", .flag s.store.runMigrations)]),
     ("api", .object
       [("port", .whole s.api.listensOn.toNat), ("request_timeout_secs", .whole s.api.requestTimeout.toNat),
        ("default_page_size", .whole s.api.defaultPageSize.toInt), ("max_page_size", .whole s.api.maxPageSize.toInt)]),
     ("security", .object
       [("jwt_secret", .text s.security.secret), ("access_token_ttl_minutes", .whole s.security.accessMinutes.toInt),
        ("refresh_token_ttl_hours", .whole s.security.refreshHours.toInt),
        ("email_domain", .text s.security.emailDomain), ("enable_cors", .flag s.security.enableCors)])]

end Settings

end AssetRegistry
