import AssetRegistry.Access.Fault
import AssetRegistry.Store.Fault
import AssetRegistry.Vocabulary

namespace AssetRegistry

/-- Trouble with the attributes of an asset. -/
inductive AttributesError where
  | unsupportedType (tag : String)
  | invalid (type : AssetType) (why : String)
  | store (e : StoreError)
  deriving DecidableEq, Repr

def AttributesError.message : AttributesError → String
  | .unsupportedType tag => "unsupported asset type: " ++ tag
  | .invalid type why => "invalid " ++ label type ++ " specs: " ++ why
  | .store e => e.message

/-- How an operation of the registry can fail, in the terms of its caller. -/
inductive ServiceError where
  | validation (message : String)
  | unsupportedType (tag : String)
  | notFound (message : String)
  | conflict (message : String)
  | invalidState (message : String)
  | unauthorized (message : String)
  | forbidden (message : String)
  | internal (message : String)
  | persistence (e : StoreError)
  /-- The operation breaks off and its caller gets no answer at all. -/
  | abandoned
  deriving DecidableEq, Repr

namespace ServiceError

def message : ServiceError → String
  | .validation m => m
  | .unsupportedType tag => "unsupported asset type: " ++ tag
  | .notFound m => m
  | .conflict m => m
  | .invalidState m => m
  | .unauthorized m => m
  | .forbidden m => m
  | .internal m => "internal error: " ++ m
  | .persistence e => e.message
  | .abandoned => ""

/-- What a violated constraint means to the caller. -/
def conflictMessage : Option String → String
  | none => "duplicate value"
  | some constraint =>
    if constraint = "assets_serial_no_key" then "an asset with this serial number already exists"
    else if constraint = "users_active_email_key" then "a user with this email already exists"
    else if constraint = "asset_status_one_active_assignment" then "asset is not available for assignment"
    else "duplicate value violates " ++ constraint

def ofStore : StoreError → ServiceError
  | .notFound what => .notFound (what ++ " not found")
  | .conflict constraint => .conflict (conflictMessage constraint)
  | .foreignKey constraint =>
    .notFound ("referenced record does not exist (" ++ constraint.getD "unknown" ++ ")")
  | e => .persistence e

def ofAttributes : AttributesError → ServiceError
  | .unsupportedType tag => .unsupportedType tag
  | .invalid type why => .validation (AttributesError.invalid type why).message
  | .store e => ofStore e

def ofAuth : AuthError → ServiceError
  | .invalidEmail address => .validation (AuthError.invalidEmail address).message
  | .expired => .unauthorized AuthError.expired.message
  | .invalidToken why => .unauthorized (AuthError.invalidToken why).message
  | .beyondCalendar => .abandoned
  | e => .internal e.message

end ServiceError

end AssetRegistry
