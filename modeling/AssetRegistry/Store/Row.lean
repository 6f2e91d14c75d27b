import AssetRegistry.Store.Fault
import AssetRegistry.Store.Value

namespace AssetRegistry.Store

/-- A reader of one column. -/
abbrev Reader (α : Type) := Value → Except Unreadable α

namespace Reader
variable {α : Type}

/-- Reads values of one kind; null is never one. -/
def ofKind (get? : Value → Option α) : Reader α
  | .null => .error .null
  | v => match get? v with
    | some a => .ok a
    | none => .error .wrongKind

def text : Reader String := ofKind fun
  | .text s => some s
  | _ => none

def int64 : Reader Int64 := ofKind fun
  | .integer n => some (Int64.ofInt n)
  | _ => none

def int32 : Reader Int32 := ofKind fun
  | .integer n => some (Int32.ofInt n)
  | _ => none

def double : Reader Binary64 := ofKind fun
  | .double d => some d
  | .integer n => some (.ofInt n)
  | _ => none

def flag : Reader Bool := ofKind fun
  | .flag b => some b
  | _ => none

def uuid : Reader Uuid := ofKind fun
  | .uuid u => some u
  | _ => none

def date : Reader Date := ofKind fun
  | .date d => some d
  | _ => none

def instant : Reader Instant := ofKind fun
  | .instant t => some t
  | _ => none

def knownLabel [Vocabulary α] (s : String) : Except Unreadable α :=
  match Vocabulary.ofLabel? s with
  | some a => .ok a
  | none => .error (.unknownLabel s (Vocabulary.typeName α))

def label [Vocabulary α] : Reader α := fun v => do knownLabel (← text v)

def labels [Vocabulary α] : Reader (List α) := fun v => do
  let items ← ofKind (fun
    | .texts items => some items
    | _ => none) v
  items.mapM knownLabel

def option (read : Reader α) : Reader (Option α)
  | .null => .ok none
  | v => (read v).map some

end Reader

namespace Row
variable {α : Type}

def get (row : Row) (name : String) (read : Reader α) : Except ClientError α :=
  match row.lookup name with
  | none => .error (.columnNotFound name)
  | some v => (read v).mapError (.columnUnreadable (.named name))

def scalar (read : Reader α) (row : Row) : Except ClientError α :=
  match row with
  | [] => .error .noColumns
  | (_, v) :: _ => (read v).mapError (.columnUnreadable .first)

end Row

end AssetRegistry.Store
