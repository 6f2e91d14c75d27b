import AssetRegistry.Json.Scalar
import AssetRegistry.Store.Row

namespace AssetRegistry

/-- A user as the directory tells of one. -/
structure User where
  id : Uuid
  name : String
  email : String
  phone : Option String
  userType : UserType
  createdAt : Instant
  updatedAt : Option Instant
  updatedBy : Option Uuid
  archivedAt : Option Instant
  deriving DecidableEq

/-- A user about to be written, with the one role held at first. -/
structure NewUser where
  name : String
  email : String
  phone : Option String
  userType : UserType
  role : Role
  deriving DecidableEq

/-- The columns an update gives; the others stay as they are. -/
structure UserPatch where
  name : Option String
  email : Option String
  phone : Option String
  userType : Option UserType
  deriving DecidableEq

/-- A live user with all roles held and the number of assets held. -/
structure UserSummary where
  id : Uuid
  name : String
  email : String
  phone : Option String
  userType : UserType
  roles : List Role
  activeAssets : Int64
  createdAt : Instant
  deriving DecidableEq

/-- An asset that a user holds. -/
structure HeldAsset where
  assetId : Uuid
  serialNo : String
  assetType : AssetType
  brand : String
  model : String
  assignedAt : Instant
  deriving DecidableEq

structure UserDetails where
  user : UserSummary
  assets : List HeldAsset
  deriving DecidableEq

/-- Which users a list wants. -/
structure UserFilter where
  search : Option String := none
  userTypes : List UserType := []
  roles : List Role := []
  assetStatuses : List AssetStatus := []
  deriving DecidableEq

open Store

def User.ofRow (row : Row) : Except ClientError User := do
  let id ← Row.get row "id" .uuid
  let name ← Row.get row "name" .text
  let email ← Row.get row "email" .text
  let phone ← Row.get row "phone" (.option .text)
  let userType ← Row.get row "user_type" .label
  let createdAt ← Row.get row "created_at" .instant
  let updatedAt ← Row.get row "updated_at" (.option .instant)
  let updatedBy ← Row.get row "updated_by" (.option .uuid)
  let archivedAt ← Row.get row "archived_at" (.option .instant)
  pure { id, name, email, phone, userType, createdAt, updatedAt, updatedBy, archivedAt }

def UserSummary.ofRow (row : Row) : Except ClientError UserSummary := do
  let id ← Row.get row "id" .uuid
  let name ← Row.get row "name" .text
  let email ← Row.get row "email" .text
  let phone ← Row.get row "phone" (.option .text)
  let userType ← Row.get row "user_type" .label
  let roles ← Row.get row "roles" .labels
  let activeAssets ← Row.get row "active_assets" .int64
  let createdAt ← Row.get row "created_at" .instant
  pure { id, name, email, phone, userType, roles, activeAssets, createdAt }

def HeldAsset.ofRow (row : Row) : Except ClientError HeldAsset := do
  let assetId ← Row.get row "asset_id" .uuid
  let serialNo ← Row.get row "serial_no" .text
  let assetType ← Row.get row "asset_type" .label
  let brand ← Row.get row "brand" .text
  let model ← Row.get row "model" .text
  let assignedAt ← Row.get row "assigned_at" .instant
  pure { assetId, serialNo, assetType, brand, model, assignedAt }

def User.toJson (u : User) : Json :=
  .object
    [("id", u.id.toJson), ("name", .text u.name), ("email", .text u.email), ("phone", .ofOption .text u.phone),
     ("user_type", Vocabulary.toJson u.userType), ("created_at", u.createdAt.toJson),
     ("updated_at", .ofOption Instant.toJson u.updatedAt), ("updated_by", .ofOption Uuid.toJson u.updatedBy),
     ("archived_at", .ofOption Instant.toJson u.archivedAt)]

def UserSummary.entries (u : UserSummary) : List (String × Json) :=
  [("id", u.id.toJson), ("name", .text u.name), ("email", .text u.email), ("phone", .ofOption .text u.phone),
   ("user_type", Vocabulary.toJson u.userType), ("roles", .array (u.roles.map Vocabulary.toJson)),
   ("active_assets", .whole u.activeAssets.toInt), ("created_at", u.createdAt.toJson)]

def UserSummary.toJson (u : UserSummary) : Json := .object u.entries

def HeldAsset.toJson (a : HeldAsset) : Json :=
  .object
    [("asset_id", a.assetId.toJson), ("serial_no", .text a.serialNo), ("asset_type", Vocabulary.toJson a.assetType),
     ("brand", .text a.brand), ("model", .text a.model), ("assigned_at", a.assignedAt.toJson)]

/-- The assets stand beside the user's own entries under one key. -/
def UserDetails.toJson (d : UserDetails) : Json :=
  .object (d.user.entries ++ [("assigned_assets", .array (d.assets.map HeldAsset.toJson))])

end AssetRegistry
