import AssetRegistry.Text.Blank
import AssetRegistry.Uuid

namespace AssetRegistry

/-- The type of an asset chooses the table that holds its attributes. -/
inductive AssetType where
  | laptop
  | mouse
  | monitor
  | mobile
  | sim
  | hardDisk
  | penDrive
  | accessories
  deriving DecidableEq, Repr

/-- What one row of the ledger says of its asset. -/
inductive AssetStatus where
  | available
  | assigned
  | inService
  deriving DecidableEq, Repr

inductive Owner where
  | remoteState
  | client
  deriving DecidableEq, Repr

inductive Role where
  | admin
  | employeeManager
  | assetManager
  | employee
  deriving DecidableEq, Repr

inductive UserType where
  | fullTime
  | intern
  | freelancer
  deriving DecidableEq, Repr

/-- A finite type whose values are known by their labels, the same in requests, answers and the store. -/
class Vocabulary (α : Type) where
  all : List α
  label : α → String
  /-- What a reader of messages calls such a value. -/
  noun : String
  /-- What the store's driver calls the type. -/
  typeName : String

export Vocabulary (label)

instance : Vocabulary AssetType where
  all := [.laptop, .mouse, .monitor, .mobile, .sim, .hardDisk, .penDrive, .accessories]
  label
    | .laptop => "laptop"
    | .mouse => "mouse"
    | .monitor => "monitor"
    | .mobile => "mobile"
    | .sim => "sim"
    | .hardDisk => "hard_disk"
    | .penDrive => "pen_drive"
    | .accessories => "accessories"
  noun := "asset type"
  typeName := "AssetType"

instance : Vocabulary AssetStatus where
  all := [.available, .assigned, .inService]
  label
    | .available => "available"
    | .assigned => "assigned"
    | .inService => "in_service"
  noun := "asset status"
  typeName := "AssetStatusKind"

instance : Vocabulary Owner where
  all := [.remoteState, .client]
  label
    | .remoteState => "remote_state"
    | .client => "client"
  noun := "owner"
  typeName := "OwnedBy"

instance : Vocabulary Role where
  all := [.admin, .employeeManager, .assetManager, .employee]
  label
    | .admin => "admin"
    | .employeeManager => "employee_manager"
    | .assetManager => "asset_manager"
    | .employee => "employee"
  noun := "role"
  typeName := "Role"

instance : Vocabulary UserType where
  all := [.fullTime, .intern, .freelancer]
  label
    | .fullTime => "full_time"
    | .intern => "intern"
    | .freelancer => "freelancer"
  noun := "user type"
  typeName := "UserType"

/-- A text that is no label of its vocabulary. -/
structure UnknownLabel where
  noun : String
  value : String
  deriving DecidableEq, Repr

def UnknownLabel.message (e : UnknownLabel) : String := "unknown " ++ e.noun ++ ": " ++ e.value

namespace Vocabulary
variable {α : Type} [Vocabulary α]

def ofLabel? (s : String) : Option α := (all (α := α)).find? fun a => label a == s

def parse (s : String) : Except UnknownLabel α :=
  match ofLabel? (Text.trim s) with
  | some a => .ok a
  | none => .error ⟨noun α, Text.trim s⟩

def labels (α : Type) [Vocabulary α] : List String := (all (α := α)).map label

end Vocabulary

namespace Role

/-- Lower is more privileged; the default role at login is the lowest held. -/
def rank : Role → Nat
  | .admin => 0
  | .employeeManager => 1
  | .assetManager => 2
  | .employee => 3

/-- Why a user acting in one role may not create a user in another, if so. -/
def creationBar? : (actor target : Role) → Option String
  | .admin, .admin => some "admins cannot create another admin"
  | .admin, _ => none
  | .employeeManager, .employee => none
  | .employeeManager, _ => some "employee managers can only create employees"
  | .assetManager, _ => some "asset managers are not allowed to create users"
  | .employee, _ => some "employees are not allowed to create users"

end Role

/-- The authenticated caller of an operation. -/
structure Actor where
  userId : Uuid
  role : Role
  deriving DecidableEq

end AssetRegistry
