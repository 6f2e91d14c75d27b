import AssetRegistry.Json.Scalar
import AssetRegistry.Specs.Attributes

namespace AssetRegistry

/-- The row of an asset about to be registered. -/
structure NewAsset where
  modelId : Uuid
  specsId : Uuid
  serialNo : String
  ownedBy : Owner
  purchasedDate : Date
  warrantyStart : Option Date
  warrantyEnd : Option Date
  createdBy : Uuid
  deriving DecidableEq

/-- The columns an update gives; the others stay as they are. -/
structure AssetPatch where
  serialNo : Option String
  ownedBy : Option Owner
  purchasedDate : Option Date
  warrantyStart : Option Date
  warrantyEnd : Option Date
  deriving DecidableEq

/-- A live asset with its model, brand and current status. -/
structure Asset where
  id : Uuid
  serialNo : String
  ownedBy : Owner
  purchasedDate : Date
  warrantyStart : Option Date
  warrantyEnd : Option Date
  specsId : Uuid
  modelId : Uuid
  modelName : String
  assetType : AssetType
  brandId : Uuid
  brandName : String
  status : AssetStatus
  assignedTo : Option Uuid
  createdBy : Uuid
  createdAt : Instant
  deriving DecidableEq

/-- A live asset as lists show it. -/
structure AssetSummary where
  id : Uuid
  serialNo : String
  assetType : AssetType
  brand : String
  model : String
  ownedBy : Owner
  status : AssetStatus
  assignedTo : Option Uuid
  assignedToName : Option String
  purchasedDate : Date
  warrantyEnd : Option Date
  createdAt : Instant
  deriving DecidableEq

/-- An asset with its attributes. -/
structure AssetDetail where
  asset : Asset
  attributes : Attributes

/-- Which assets a list wants. -/
structure AssetFilter where
  search : Option String := none
  assetType : Option AssetType := none
  status : Option AssetStatus := none
  ownedBy : Option Owner := none
  deriving DecidableEq

open Store

def Asset.ofRow (row : Row) : Except ClientError Asset := do
  let id ← Row.get row "id" .uuid
  let serialNo ← Row.get row "serial_no" .text
  let ownedBy ← Row.get row "owned_by" .label
  let purchasedDate ← Row.get row "purchased_date" .date
  let warrantyStart ← Row.get row "warranty_start_date" (.option .date)
  let warrantyEnd ← Row.get row "warranty_exp_date" (.option .date)
  let specsId ← Row.get row "specs_id" .uuid
  let modelId ← Row.get row "model_id" .uuid
  let modelName ← Row.get row "model_name" .text
  let assetType ← Row.get row "asset_type" .label
  let brandId ← Row.get row "brand_id" .uuid
  let brandName ← Row.get row "brand_name" .text
  let status ← Row.get row "status" .label
  let assignedTo ← Row.get row "assigned_to" (.option .uuid)
  let createdBy ← Row.get row "created_by" .uuid
  let createdAt ← Row.get row "created_at" .instant
  pure { id, serialNo, ownedBy, purchasedDate, warrantyStart, warrantyEnd, specsId, modelId, modelName, assetType,
         brandId, brandName, status, assignedTo, createdBy, createdAt }

def AssetSummary.ofRow (row : Row) : Except ClientError AssetSummary := do
  let id ← Row.get row "id" .uuid
  let serialNo ← Row.get row "serial_no" .text
  let assetType ← Row.get row "asset_type" .label
  let brand ← Row.get row "brand" .text
  let model ← Row.get row "model" .text
  let ownedBy ← Row.get row "owned_by" .label
  let status ← Row.get row "status" .label
  let assignedTo ← Row.get row "assigned_to" (.option .uuid)
  let assignedToName ← Row.get row "assigned_to_name" (.option .text)
  let purchasedDate ← Row.get row "purchased_date" .date
  let warrantyEnd ← Row.get row "warranty_exp_date" (.option .date)
  let createdAt ← Row.get row "created_at" .instant
  pure { id, serialNo, assetType, brand, model, ownedBy, status, assignedTo, assignedToName, purchasedDate, warrantyEnd,
         createdAt }

def Asset.entries (a : Asset) : List (String × Json) :=
  [("id", a.id.toJson), ("serial_no", .text a.serialNo), ("owned_by", Vocabulary.toJson a.ownedBy),
   ("purchased_date", a.purchasedDate.toJson), ("warranty_start_date", .ofOption Date.toJson a.warrantyStart),
   ("warranty_exp_date", .ofOption Date.toJson a.warrantyEnd), ("specs_id", a.specsId.toJson),
   ("model_id", a.modelId.toJson), ("model_name", .text a.modelName), ("asset_type", Vocabulary.toJson a.assetType),
   ("brand_id", a.brandId.toJson), ("brand_name", .text a.brandName), ("status", Vocabulary.toJson a.status),
   ("assigned_to", .ofOption Uuid.toJson a.assignedTo), ("created_by", a.createdBy.toJson),
   ("created_at", a.createdAt.toJson)]

def Asset.toJson (a : Asset) : Json := .object a.entries

/-- The attributes stand beside the asset's own entries under one key. -/
def AssetDetail.toJson (d : AssetDetail) : Json := .object (d.asset.entries ++ [("specs", d.attributes.toJson)])

def AssetSummary.toJson (a : AssetSummary) : Json :=
  .object
    [("id", a.id.toJson), ("serial_no", .text a.serialNo), ("asset_type", Vocabulary.toJson a.assetType),
     ("brand", .text a.brand), ("model", .text a.model), ("owned_by", Vocabulary.toJson a.ownedBy),
     ("status", Vocabulary.toJson a.status), ("assigned_to", .ofOption Uuid.toJson a.assignedTo),
     ("assigned_to_name", .ofOption .text a.assignedToName), ("purchased_date", a.purchasedDate.toJson),
     ("warranty_exp_date", .ofOption Date.toJson a.warrantyEnd), ("created_at", a.createdAt.toJson)]

end AssetRegistry
