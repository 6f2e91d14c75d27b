import AssetRegistry.Specs.Schema

namespace AssetRegistry.Specs

/-- On creation every column is required. -/
def Column.field (c : Column) : Json.Field := .required c.name c.kind.decoder

abbrev Values (cs : List Column) := Json.Tuple (cs.map Column.field)

namespace Values

/-- The values as arguments, in the order of the columns. -/
def toArgs : (cs : List Column) → Values cs → List Store.Value
  | [], _ => []
  | c :: cs, (v, vs) => c.kind.toValue v :: toArgs cs vs

def toEntries : (cs : List Column) → Values cs → List (String × Json)
  | [], _ => []
  | c :: cs, (v, vs) => (c.name, c.kind.toJson v) :: toEntries cs vs

def ofRow (row : Store.Row) : (cs : List Column) → Except Store.ClientError (Values cs)
  | [] => .ok ()
  | c :: cs => do
    let v ← Store.Row.get row c.name c.kind.reader
    let vs ← ofRow row cs
    pure (v, vs)

end Values

end AssetRegistry.Specs

namespace AssetRegistry

open Specs

/-- The attributes of an asset of some type. -/
structure Attributes where
  type : AssetType
  values : Values (columns type)

namespace Attributes

/-- How a payload for the attributes of a type is read. -/
def record (t : AssetType) : Json.Record := ⟨recordName t, (columns t).map Column.field⟩

/-- The attributes that a payload gives: a value for every column of the type. -/
def ofPayload (t : AssetType) (payload : Json) : Except Json.Mismatch Attributes :=
  ((record t).ofJson payload).map fun values => ⟨t, values⟩

def toJson (a : Attributes) : Json := .object (Values.toEntries (columns a.type) a.values)

/-- The attributes as arguments in the order of the columns. -/
def args (a : Attributes) : List Store.Value := Values.toArgs (columns a.type) a.values

/-- The attributes that a row of the type's table holds. -/
def ofRow (t : AssetType) (row : Store.Row) : Except Store.ClientError Attributes :=
  (Values.ofRow row (columns t)).map fun values => ⟨t, values⟩

end Attributes

end AssetRegistry
