import AssetRegistry.Specs.Attributes

namespace AssetRegistry.Specs

/-- What a payload says of one column. -/
inductive Change (α : Type) where
  | absent
  | null
  | set (a : α)

def Change.value? {α : Type} : Change α → Option α
  | .set a => some a
  | _ => none

/-- Null and values are told apart; a column that is not mentioned is absent. -/
def Column.change (c : Column) : Json.Field :=
  .withDefault c.name
    { ofJson := fun j => (c.kind.decoder.option.ofJson j).map fun v => v.elim .null .set
      read := fun depth cs => (c.kind.decoder.option.read depth cs).map fun v => v.elim .null .set }
    (.absent : Change c.kind.Value)

abbrev Changes (cs : List Column) := Json.Tuple (cs.map Column.change)

namespace Changes

/-- The columns to be written with their values, in the order of the columns. -/
def assignments : (cs : List Column) → Changes cs → List (String × Store.Value)
  | [], _ => []
  | c :: cs, (change, changes) =>
    match (change : Change c.kind.Value).value? with
    | some v => (c.name, c.kind.toValue v) :: assignments cs changes
    | none => assignments cs changes

/-- What the payload says of each column, by name and without its type. -/
def toList : (cs : List Column) → Changes cs → List (String × Change Json)
  | [], _ => []
  | c :: cs, (change, changes) =>
    let shown : Change Json := match (change : Change c.kind.Value) with
      | .absent => .absent
      | .null => .null
      | .set v => .set (c.kind.toJson v)
    (c.name, shown) :: toList cs changes

end Changes

end AssetRegistry.Specs

namespace AssetRegistry

open Specs

/-- A partial update of the attributes of an asset of some type. -/
structure AttributesPatch where
  type : AssetType
  changes : Changes (columns type)

namespace AttributesPatch

def record (t : AssetType) : Json.Record := ⟨recordName t ++ "Patch", (columns t).map Column.change⟩

/-- The update that a payload gives. A column is absent from the payload, given as null, or given a value; only values
are written. -/
def ofPayload (t : AssetType) (payload : Json) : Except Json.Mismatch AttributesPatch :=
  ((record t).ofJson payload).map fun changes => ⟨t, changes⟩

def assignments (p : AttributesPatch) : List (String × Store.Value) := Changes.assignments (columns p.type) p.changes

def changedColumns (p : AttributesPatch) : List String := p.assignments.map (·.1)

def isEmpty (p : AttributesPatch) : Bool := p.assignments.isEmpty

end AttributesPatch

end AssetRegistry
