import AssetRegistry.Json.Scalar
import AssetRegistry.Store.Row

namespace AssetRegistry

/-- A brand is known by its name, in which case does not matter. -/
structure Brand where
  id : Uuid
  name : String
  deriving DecidableEq

/-- A model is known by its name, in which case does not matter, its brand, and the type of its assets. -/
structure Model where
  id : Uuid
  name : String
  assetType : AssetType
  brandId : Uuid
  deriving DecidableEq

open Store

def Brand.ofRow (row : Row) : Except ClientError Brand := do
  let id ← Row.get row "id" .uuid
  let name ← Row.get row "name" .text
  pure { id, name }

def Brand.toJson (b : Brand) : Json := .object [("id", b.id.toJson), ("name", .text b.name)]

def Model.ofRow (row : Row) : Except ClientError Model := do
  let id ← Row.get row "id" .uuid
  let name ← Row.get row "name" .text
  let assetType ← Row.get row "asset_type" .label
  let brandId ← Row.get row "brand_id" .uuid
  pure { id, name, assetType, brandId }

def Model.toJson (m : Model) : Json :=
  .object [("id", m.id.toJson), ("name", .text m.name), ("asset_type", Vocabulary.toJson m.assetType),
    ("brand_id", m.brandId.toJson)]

end AssetRegistry
