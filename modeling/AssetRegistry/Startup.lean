import AssetRegistry.CommandLine
import AssetRegistry.Connection.Migration
import AssetRegistry.Connection.Options
import AssetRegistry.Web.Handlers

namespace AssetRegistry

open Connection

/-- Why the service does not start. -/
inductive StartupError where
  | store (e : StoreError)
  | auth (e : AuthError)
  deriving DecidableEq, Repr

def StartupError.message : StartupError → String
  | .store e => e.message
  | .auth e => e.message

/-- What has happened so far, and how it ended. -/
structure Startup where
  /-- The script that makes the tables has been sent. -/
  schemaSent : Bool
  result : Except StartupError Unit

namespace Startup

def connect (user : String) (s : Settings) : Except StartupError Options :=
  (Options.ofSettings user s.store).mapError .store

def update (table : MigrationTable) : Startup :=
  let (schemaSent, result) := migrate table
  { schemaSent, result := result.mapError fun e => .store (.migration e.message) }

/-- Finds out whether the service can issue tokens. -/
def checkTokens (now : Instant) (s : Settings) : Except StartupError Unit :=
  ((Web.App.ofSettings now s).mapError .auth).map fun _ => ()

/-- Finds out what can be known before the store is asked: there is an address to connect to, and the service can issue
tokens if it is to serve. -/
def check (user : String) (now : Instant) (s : Settings) (command : Command) : Except StartupError Unit := do
  let _ ← connect user s
  match command with
  | .migrate => pure ()
  | .serve _ => checkTokens now s

/-- The number under which the service listens: the command's own, else the one of the settings. -/
def listenNumber (s : Settings) : Option UInt16 → UInt16
  | some n => n
  | none => s.api.listensOn

/-- Runs a command as far as it goes before the service listens. -/
def run (user : String) (now : Instant) (s : Settings) (table : MigrationTable) (command : Command) : Startup :=
  match connect user s with
  | .error e => { schemaSent := false, result := .error e }
  | .ok _ =>
    match command with
    | .migrate => update table
    | .serve _ =>
      let before : Startup := if s.store.runMigrations then update table else { schemaSent := false, result := .ok () }
      { before with result := before.result.bind fun _ => checkTokens now s }

end Startup

end AssetRegistry
