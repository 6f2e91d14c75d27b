import AssetRegistry.Store.Fault
import AssetRegistry.Text.Bytes

namespace AssetRegistry.Connection

/-- A version of the tables, with the digest of the script that makes it. -/
structure Migration where
  version : Int
  checksum : Text.Bytes
  deriving DecidableEq, Repr

/-- The one version that the service knows. What the store remembers must agree with it. -/
def currentMigration : Migration where
  version := 20250101000000
  checksum :=
    [0xc2, 0xee, 0x05, 0x5d, 0x8f, 0xe5, 0x92, 0x8f, 0xf8, 0x03, 0xa6, 0xe7, 0x70, 0x1b, 0xe0, 0x18,
     0x23, 0x18, 0x0d, 0x3c, 0xbd, 0x5b, 0x4e, 0x40, 0x6a, 0x27, 0x06, 0x4b, 0x37, 0x6a, 0x65, 0xf7,
     0x0f, 0xce, 0xf0, 0x82, 0xcc, 0xb7, 0xe6, 0xaa, 0xec, 0x1b, 0xcc, 0x1c, 0x28, 0x08, 0xf7, 0x4b]

/-- What the store remembers, and how it will answer the script. -/
structure MigrationTable where
  /-- Versions that were begun and not finished. -/
  unfinished : List Int := []
  applied : List Migration := []
  beginFault : Option Store.Fault := none
  scriptFault : Option Store.Fault := none
  commitFault : Option Store.Fault := none

/-- Why the tables are not brought up to date. -/
inductive MigrationFault where
  | unfinished (version : Int)
  | unknown (version : Int)
  | changed (version : Int)
  | execution (fault : Store.Fault)
  deriving DecidableEq, Repr

def MigrationFault.message : MigrationFault → String
  | .unfinished version =>
    "migration " ++ Text.ofInt version ++ " is partially applied; fix and remove row from `_sqlx_migrations` table"
  | .unknown version =>
    "migration " ++ Text.ofInt version ++ " was previously applied but is missing in the resolved migrations"
  | .changed version => "migration " ++ Text.ofInt version ++ " was previously applied but has been modified"
  | .execution fault => "while executing migrations: " ++ (Store.ClientError.fault fault).message

def isPending (table : MigrationTable) : Except MigrationFault Bool := do
  if let some version := table.unfinished.head? then throw (.unfinished version)
  if let some other := table.applied.find? (·.version != currentMigration.version) then throw (.unknown other.version)
  match table.applied.getLast? with
  | none => pure true
  | some applied =>
    if applied.checksum = currentMigration.checksum then pure false else throw (.changed applied.version)

/-- Whether the script was sent, and how that ended. -/
def migrate (table : MigrationTable) : Bool × Except MigrationFault Unit :=
  match isPending table with
  | .error e => (false, .error e)
  | .ok false => (false, .ok ())
  | .ok true =>
    match table.beginFault, table.scriptFault, table.commitFault with
    | some fault, _, _ => (false, .error (.execution fault))
    | none, some fault, _ => (true, .error (.execution fault))
    | none, none, some fault => (true, .error (.execution fault))
    | none, none, none => (true, .ok ())

end AssetRegistry.Connection
