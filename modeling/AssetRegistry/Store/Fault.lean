import AssetRegistry.Text.Numeral
import AssetRegistry.Text.Quoted

namespace AssetRegistry.Store

/-- A fault reported by the store: a code of five characters, a text, and the constraint that was violated, if any. -/
structure Fault where
  code : String
  message : String
  constraint : Option String := none
  deriving DecidableEq, Repr

/-- The code of a value that must be unique and is there already. -/
def uniqueViolation : String := "23505"

/-- The code of a reference to a row that is not there. -/
def foreignKeyViolation : String := "23503"

/-- Columns are asked for by name, or as the only one. -/
inductive ColumnRef where
  | named (name : String)
  | first
  deriving DecidableEq, Repr

def ColumnRef.text : ColumnRef → String
  | .named name => Text.quoted name
  | .first => "0"

/-- Why a column's value is not what was asked for. -/
inductive Unreadable where
  | null
  | unknownLabel (value typeName : String)
  | wrongKind
  deriving DecidableEq, Repr

def Unreadable.message : Unreadable → String
  | .null => "unexpected null; try decoding as an `Option`"
  | .unknownLabel value typeName => "invalid value " ++ Text.quoted value ++ " for enum " ++ typeName
  | .wrongKind => "mismatched types"

/-- What the connection to the store reports. -/
inductive ClientError where
  | rowNotFound
  | fault (fault : Fault)
  | columnUnreadable (column : ColumnRef) (why : Unreadable)
  | columnNotFound (name : String)
  | noColumns
  | poolTimedOut
  | poolClosed
  | protocol (message : String)
  deriving DecidableEq, Repr

def ClientError.message : ClientError → String
  | .rowNotFound => "no rows returned by a query that expected to return at least one row"
  | .fault f => "error returned from database: " ++ f.message
  | .columnUnreadable column why => "error occurred while decoding column " ++ column.text ++ ": " ++ why.message
  | .columnNotFound name => "no column found for name: " ++ name
  | .noColumns => "column index out of bounds: the len is 0, but the index is 0"
  | .poolTimedOut => "pool timed out while waiting for an open connection"
  | .poolClosed => "attempted to acquire a connection on a closed pool"
  | .protocol message => "encountered unexpected or invalid data: " ++ message

end AssetRegistry.Store

namespace AssetRegistry

/-- What the registry knows of trouble with its store. -/
inductive StoreError where
  | configMissing (name : String)
  | invalidUrl
  | notFound (what : String)
  | conflict (constraint : Option String)
  | foreignKey (constraint : Option String)
  | query (message : String)
  | migration (message : String)
  | client (cause : Store.ClientError)
  deriving DecidableEq, Repr

namespace StoreError

def message : StoreError → String
  | .configMissing name => "Missing configuration: " ++ name
  | .invalidUrl => "Invalid database URL"
  | .notFound what => "Not found: " ++ what
  | .conflict constraint => "Unique constraint violated: " ++ constraint.getD "unknown"
  | .foreignKey constraint => "Foreign key constraint violated: " ++ constraint.getD "unknown"
  | .query message => "Query error: " ++ message
  | .migration message => "Migration error: " ++ message
  | .client cause => cause.message

/-- A fault is told apart by its code alone. -/
def ofFault (fault : Store.Fault) : StoreError :=
  if fault.code = Store.uniqueViolation then .conflict fault.constraint
  else if fault.code = Store.foreignKeyViolation then .foreignKey fault.constraint
  else .client (.fault fault)

/-- A row that must be there and is not counts as not found; two kinds of faults have a meaning of their own. -/
def ofClient : Store.ClientError → StoreError
  | .rowNotFound => .notFound "Record not found"
  | .fault fault => ofFault fault
  | cause => .client cause

end StoreError

end AssetRegistry
