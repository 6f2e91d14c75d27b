import AssetRegistry.Calendar.Instant
import AssetRegistry.Number.Binary64
import AssetRegistry.Uuid
import AssetRegistry.Vocabulary

namespace AssetRegistry.Store

/-- The values that go to the store as arguments and come back in rows. -/
inductive Value where
  | null
  | text (s : String)
  | integer (n : Int)
  | double (d : Binary64)
  | flag (b : Bool)
  | uuid (u : Uuid)
  | date (d : Date)
  | instant (t : Instant)
  | texts (items : List String)
  deriving DecidableEq

/-- A value of a vocabulary is stored as its label. -/
def Value.ofLabel {α : Type} [Vocabulary α] (a : α) : Value := .text (label a)

/-- An absent value is stored as null. -/
def Value.ofOption {α : Type} (f : α → Value) : Option α → Value
  | some a => f a
  | none => .null

/-- A row of an answer: its columns in order, each with a name. -/
abbrev Row := List (String × Value)

end AssetRegistry.Store
