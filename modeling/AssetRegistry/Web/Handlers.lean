import AssetRegistry.Asset.Operations
import AssetRegistry.Directory.Operations
import AssetRegistry.Settings
import AssetRegistry.Web.ContentType
import AssetRegistry.Web.Params

namespace AssetRegistry.Web

open Store

/-- What requests are answered with besides the store. -/
structure App where
  desk : Users.Desk
  api : ApiSettings
  enableCors : Bool

namespace App

/-- The service that some settings describe, at some time. -/
def ofSettings (now : Instant) (s : Settings) : Except AuthError App := do
  let issuer ← Issuer.ofSettings s.security.secret s.security.accessMinutes s.security.refreshHours
  pure
    { desk := { issuer, policy := .ofDomain s.security.emailDomain, now }
      api := s.api
      enableCors := s.security.enableCors }

end App

abbrev Handling (α : Type) := Exchange Failure α

/-- An operation of the registry as part of answering. -/
def perform {α : Type} (x : Service.Operation α) : Handling α := x.mapError .ofService

def allow {α : Type} (x : Except ApiError α) : Handling α := .ofExcept (x.mapError .refused)

def pieceText (piece : List Char) : Handling String :=
  match Text.ofUtf8? (Text.unescape (piece.flatMap String.utf8EncodeChar)) with
  | some text => pure text
  | none => throw (.answered (.ofText 400 "Invalid URL: Invalid UTF-8 in `id`"))

/-- The identifier that a text writes, blanks around it aside. -/
def parseId (text what : String) : Except ApiError Uuid :=
  match Uuid.parse? (Text.trim text) with
  | some id => .ok id
  | none => .error ⟨.badRequest, "invalid " ++ what ++ " id: " ++ text⟩

def pathId (piece : List Char) (what : String) : Handling Uuid := do allow (parseId (← pieceText piece) what)

/-- How a client learns that its document is no good. -/
def bodyFault (e : Json.Failure) : ApiError :=
  match e.cause with
  | .malformed _ => ⟨.invalidJson, "Failed to parse the request body as JSON: " ++ e.message⟩
  | .mismatch _ => ⟨.invalidJson, "Failed to deserialize the JSON body into the target type: " ++ e.message⟩

def readBody {α : Type} (d : Json.Decoder α) (r : Request) : Except ApiError α :=
  if r.hasJson then (d.readFront r.body.toList).mapError bodyFault
  else .error ⟨.invalidJson, "Expected request with `Content-Type: application/json`"⟩

def jsonList {α : Type} (f : α → Json) (items : List α) : Json := .array (items.map f)

def health : Handling Response := do
  let _ ← (execute .ping).mapError fun e => Failure.refused (.ofStore e)
  pure (.success (.object [("status", .text "ok"), ("version", .text "0.1.0")]))

def login (app : App) (r : Request) : Handling Response := do
  let req ← allow (readBody Login.decoder r)
  return .success (← perform (Users.login app.desk req)).toJson

def refresh (app : App) (r : Request) : Handling Response := do
  let req ← allow (readBody Refresh.decoder r)
  return .success (← perform (Users.refresh app.desk req)).toJson

def App.page (app : App) (ps : Params) : Query.Page := ps.page app.api.defaultPageSize app.api.maxPageSize

def userFilter (ps : Params) : Except ApiError UserFilter := do
  let userTypes ← ps.many "user_type"
  let roles ← ps.many "role"
  let assetStatuses ← ps.many "asset_status"
  pure { search := ps.text? "search", userTypes, roles, assetStatuses }

def listUsers (app : App) (r : Request) : Handling Response := do
  let ps := Params.ofQuery r.query
  let filter ← allow (userFilter ps)
  return .success (jsonList UserSummary.toJson (← perform (Users.list filter (app.page ps))))

def createUser (app : App) (actor : Actor) (r : Request) : Handling Response := do
  let req ← allow (readBody CreateUser.decoder r)
  return .created (← perform (Users.create app.desk actor req)).toJson

def getUser (id : List Char) : Handling Response := do
  return .success (← perform (Users.details (← pathId id "user"))).toJson

def updateUser (app : App) (actor : Actor) (id : List Char) (r : Request) : Handling Response := do
  let text ← pieceText id
  let patch ← allow (readBody UserPatch.decoder r)
  let id ← allow (parseId text "user")
  return .success (← perform (Users.update app.desk actor id patch)).toJson

def deleteUser (actor : Actor) (id : List Char) : Handling Response := do
  perform (Users.delete actor (← pathId id "user"))
  return .noContent

def userTimeline (id : List Char) : Handling Response := do
  return .success (jsonList UserEvent.toJson (← perform (Users.timeline (← pathId id "user"))))

def assetFilter (ps : Params) : Except ApiError AssetFilter := do
  let assetType ← ps.one? "asset_type"
  let status ← ps.one? "status"
  let ownedBy ← ps.one? "owned_by"
  pure { search := ps.text? "search", assetType, status, ownedBy }

def listAssets (app : App) (r : Request) : Handling Response := do
  let ps := Params.ofQuery r.query
  let filter ← allow (assetFilter ps)
  return .success (jsonList AssetSummary.toJson (← perform (Assets.list filter (app.page ps))))

def createAsset (actor : Actor) (r : Request) : Handling Response := do
  let req ← allow (readBody CreateAsset.decoder r)
  let id ← perform (Assets.create actor req)
  return .created (.object [("asset_id", id.toJson)])

def getAsset (id : List Char) : Handling Response := do
  return .success (← perform (Assets.detail (← pathId id "asset"))).toJson

def updateAsset (actor : Actor) (id : List Char) (r : Request) : Handling Response := do
  let text ← pieceText id
  let req ← allow (readBody UpdateAsset.decoder r)
  let id ← allow (parseId text "asset")
  perform (Assets.update actor id req)
  return .success (.object [("asset_id", id.toJson)])

def archiveAsset (actor : Actor) (id : List Char) : Handling Response := do
  perform (Assets.archive actor (← pathId id "asset"))
  return .noContent

def assignAsset (r : Request) : Handling Response := do
  let req ← allow (readBody AssignAsset.decoder r)
  return .created (← perform (Assets.assign req)).toJson

def retrieveAsset (id : List Char) : Handling Response := do
  let id ← pathId id "asset"
  perform (Assets.retrieve id)
  return .success (.object [("asset_id", id.toJson), ("retrieved", .flag true)])

def assetTimeline (id : List Char) : Handling Response := do
  return .success (jsonList AssetEvent.toJson (← perform (Assets.timeline (← pathId id "asset"))))

end AssetRegistry.Web
