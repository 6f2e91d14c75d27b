import AssetRegistry.Number.Binary64

namespace AssetRegistry

/-- JSON values. Whole numbers and doubles are different values even where they agree as numbers: a number is whole if
it is written without point and exponent and lies between minus two to the 63 and two to the 64. -/
inductive Json where
  | null
  | flag (b : Bool)
  | whole (n : Int)
  | double (d : Binary64)
  | text (s : String)
  | array (items : List Json)
  | object (entries : List (String × Json))

namespace Json

/-- Sets a key of an object whose keys stand in ascending order of their bytes; an earlier value is replaced. -/
def insertEntry (key : String) (value : Json) : List (String × Json) → List (String × Json)
  | [] => [(key, value)]
  | (k, v) :: rest =>
    if key = k then (key, value) :: rest
    else if key < k then (key, value) :: (k, v) :: rest
    else (k, v) :: insertEntry key value rest

/-- The object of some entries: keys in ascending order, each with the last value given to it. -/
def ofEntries (entries : List (String × Json)) : Json :=
  .object (entries.foldl (fun sorted entry => insertEntry entry.1 entry.2 sorted) [])

def get? (key : String) : Json → Option Json
  | .object entries => entries.lookup key
  | _ => none

/-- An absent value is written as null. -/
def ofOption {α : Type} (f : α → Json) : Option α → Json
  | some a => f a
  | none => .null

end Json

end AssetRegistry
