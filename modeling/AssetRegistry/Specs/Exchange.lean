import AssetRegistry.Service.Failure
import AssetRegistry.Store.Dialogue

namespace AssetRegistry

open Store

def resolveType (tag : String) : Except AttributesError AssetType :=
  (Vocabulary.parse tag).mapError fun e => .unsupportedType e.value

namespace Attributes

/-- The attributes of a payload, or why it is no good. -/
def check (t : AssetType) (payload : Json) : Except AttributesError Attributes :=
  (ofPayload t payload).mapError fun m => .invalid t m.message

/-- Inserts the attributes that a payload gives; the result is the row's identifier. -/
def create (t : AssetType) (payload : Json) : Exchange AttributesError Uuid := do
  let attributes ← Exchange.ofExcept (check t payload)
  (fetchOne (.insertAttributes attributes) (Row.scalar .uuid)).mapError .store

def get (t : AssetType) (id : Uuid) : Exchange AttributesError Attributes :=
  Exchange.mapError .store do
    match ← fetchOptional (.findAttributes t id) (ofRow t) with
    | some attributes => pure attributes
    | none => throw (.notFound (label t ++ " specs " ++ id.toText))

end Attributes

namespace AttributesPatch

/-- The update that a payload asks for, or why it is no good. -/
def check (t : AssetType) (payload : Json) : Except AttributesError AttributesPatch :=
  (ofPayload t payload).mapError fun m => .invalid t m.message

/-- Writes what a payload changes in a row of a type's table; a payload that changes nothing sends nothing. -/
def apply (t : AssetType) (id : Uuid) (payload : Json) : Exchange AttributesError Unit := do
  let patch ← Exchange.ofExcept (check t payload)
  if patch.isEmpty then pure ()
  else
    let count ← (execute (.updateAttributes patch id)).mapError .store
    if count = 0 then throw (.store (.notFound (Specs.table t ++ " row " ++ id.toText)))

end AttributesPatch

end AssetRegistry
