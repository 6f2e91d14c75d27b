import AssetRegistry.Service.Failure
import AssetRegistry.Web.Message

namespace AssetRegistry.Web

inductive ApiErrorKind where
  | badRequest
  | validation
  | invalidJson
  | unauthorized
  | forbidden
  | notFound
  | conflict
  | unprocessable
  | internal
  | unavailable
  deriving DecidableEq, Repr

def ApiErrorKind.status : ApiErrorKind → Nat
  | .badRequest => 400
  | .validation => 400
  | .invalidJson => 400
  | .unauthorized => 401
  | .forbidden => 403
  | .notFound => 404
  | .conflict => 409
  | .unprocessable => 422
  | .internal => 500
  | .unavailable => 503

def ApiErrorKind.code : ApiErrorKind → String
  | .badRequest => "BAD_REQUEST"
  | .validation => "VALIDATION_ERROR"
  | .invalidJson => "INVALID_JSON"
  | .unauthorized => "UNAUTHORIZED"
  | .forbidden => "FORBIDDEN"
  | .notFound => "NOT_FOUND"
  | .conflict => "CONFLICT"
  | .unprocessable => "INVALID_STATE"
  | .internal => "INTERNAL_SERVER_ERROR"
  | .unavailable => "SERVICE_UNAVAILABLE"

/-- How a failure is told to a client: each kind has one status and one code, and what happened inside the store stays
inside. -/
structure ApiError where
  kind : ApiErrorKind
  message : String
  deriving DecidableEq, Repr

namespace ApiError

def toJson (e : ApiError) : Json :=
  .object [("error", .flag true), ("message", .text e.message), ("code", .text e.kind.code)]

def toResponse (e : ApiError) : Response := .ofJson e.kind.status e.toJson

/-- What a client learns of trouble with the store. -/
def ofStore : StoreError → ApiError
  | .notFound what => ⟨.notFound, what⟩
  | .conflict _ => ⟨.conflict, "Duplicate value"⟩
  | .foreignKey _ => ⟨.notFound, "Referenced record does not exist"⟩
  | .configMissing _ => ⟨.unavailable, "Database temporarily unavailable"⟩
  | .invalidUrl => ⟨.unavailable, "Database temporarily unavailable"⟩
  | .query _ => ⟨.internal, "An error occurred while processing your request"⟩
  | .migration _ => ⟨.unavailable, "Service is being updated, please try again later"⟩
  | .client .poolTimedOut => ⟨.unavailable, "Database temporarily unavailable"⟩
  | .client _ => ⟨.internal, "Database error occurred"⟩

def ofService : ServiceError → ApiError
  | .validation m => ⟨.validation, m⟩
  | .unsupportedType tag => ⟨.badRequest, "unsupported asset type: " ++ tag⟩
  | .notFound m => ⟨.notFound, m⟩
  | .conflict m => ⟨.conflict, m⟩
  | .invalidState m => ⟨.unprocessable, m⟩
  | .unauthorized m => ⟨.unauthorized, m⟩
  | .forbidden m => ⟨.forbidden, m⟩
  | .internal _ => ⟨.internal, "An error occurred while processing your request"⟩
  | .persistence e => ofStore e
  | .abandoned => ⟨.internal, "An error occurred while processing your request"⟩

end ApiError

/-- The envelope where what a request asked for cannot be written. -/
def unwritable : ApiError := ⟨.internal, "Failed to serialize response data"⟩

/-- Why a request is not answered with what it asked for. -/
inductive Failure where
  | refused (e : ApiError)
  /-- The request has an answer of its own. -/
  | answered (r : Response)
  /-- The request breaks off, and there is no answer. -/
  | abandoned

def Failure.ofService : ServiceError → Failure
  | .abandoned => .abandoned
  | e => .refused (ApiError.ofService e)

/-- The answer to a request that failed, if there is one. -/
def Failure.toResponse? : Failure → Option Response
  | .refused e => some e.toResponse
  | .answered r => some r
  | .abandoned => none

end AssetRegistry.Web
