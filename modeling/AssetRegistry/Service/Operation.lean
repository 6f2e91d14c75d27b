import AssetRegistry.Service.Failure
import AssetRegistry.Store.Dialogue

namespace AssetRegistry.Service

open Store

/-- A dialogue with the store that may fail in the terms of its caller. -/
abbrev Operation (α : Type) := Exchange ServiceError α

def stored {α : Type} (x : Exchange StoreError α) : Operation α := x.mapError .ofStore

def require (holds : Bool) (refusal : ServiceError) : Except ServiceError Unit :=
  if holds then .ok () else .error refusal

/-- Nobody is known by the identifier, or not any more. -/
def userNotFound (id : Uuid) : ServiceError := .notFound ("user " ++ id.toText ++ " not found")

end AssetRegistry.Service
