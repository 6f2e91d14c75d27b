import AssetRegistry.Catalogue.Basic
import AssetRegistry.Store.Dialogue

namespace AssetRegistry

open Store

/-- Looks something up, or else inserts it, or else looks it up again. -/
def findOrInsert {α : Type} (find insert : Statement) (read : RowReader α) (missing : StoreError) :
    Exchange StoreError α := do
  match ← fetchOptional find read with
  | some a => pure a
  | none =>
    match ← fetchOptional insert read with
    | some a => pure a
    | none =>
      match ← fetchOptional find read with
      | some a => pure a
      | none => throw missing

def Brand.findOrInsert (name : String) : Exchange StoreError Brand :=
  AssetRegistry.findOrInsert (.findBrand name) (.insertBrand name) Brand.ofRow (.notFound ("brand " ++ name))

/-- The model of a name, a brand and an asset type. -/
def Model.findOrInsert (brandId : Uuid) (name : String) (assetType : AssetType) : Exchange StoreError Model :=
  AssetRegistry.findOrInsert (.findModel name brandId assetType) (.insertModel name brandId assetType) Model.ofRow
    (.notFound ("model " ++ name))

end AssetRegistry
