import AssetRegistry.Ledger.Register

namespace AssetRegistry.Assets

open Store

/-- Inserts an asset; the result is its identifier. -/
def insert (asset : NewAsset) : Exchange StoreError Uuid := fetchOne (.insertAsset asset) (Row.scalar .uuid)

/-- Writes the given columns of a live asset; tells whether there was one. -/
def write (id : Uuid) (patch : AssetPatch) (updatedBy : Uuid) : Exchange StoreError Bool := do
  return 0 < (← execute (.updateAsset id patch updatedBy))

/-- Locks a live asset for the rest of the transaction; tells whether there is one. -/
def lock (id : Uuid) : Exchange StoreError Bool := do
  return (← fetchOptional (.lockAsset id) (Row.scalar .uuid)).isSome

/-- Stamps a live asset as archived; tells whether there was one. -/
def stampArchived (id archivedBy : Uuid) : Exchange StoreError Bool := do
  return 0 < (← execute (.archiveAsset id archivedBy))

/-- The asset was registered once, archived or not. -/
def wasRegistered (id : Uuid) : Exchange StoreError Bool := fetchOne (.assetExists id) (Row.scalar .flag)

def lookUp (id : Uuid) : Exchange StoreError (Option Asset) := fetchOptional (.findAsset id) Asset.ofRow

def searchColumns : List String := ["b.name", "m.name", "a.serial_no"]

/-- The condition that a column shows the label, if one is wanted. -/
def labelCondition {α : Type} [Vocabulary α] (column : String) : Option α → List Query.Condition
  | some a => [.eq column (.text (label a))]
  | none => []

/-- The conditions of a list of assets, in their fixed order. -/
def listConditions (filter : AssetFilter) : List Query.Condition :=
  .raw "a.archived_at IS NULL" :: Query.Condition.ofSearch searchColumns filter.search ++
    labelCondition "m.asset_type::text" filter.assetType ++
    labelCondition "COALESCE(cs.status, 'available')::text" filter.status ++
    labelCondition "a.owned_by::text" filter.ownedBy

/-- The list of live assets that a filter wants, the newest first. -/
def listQuery (filter : AssetFilter) (page : Query.Page) : Query.Select where
  base := assetListBase
  conditions := listConditions filter
  order := [("a.created_at", .descending), ("a.id", .descending)]
  page := some page

def fetchList (filter : AssetFilter) (page : Query.Page) : Exchange StoreError (List AssetSummary) := do
  fetchAll (.listAssets (← checkQuery (listQuery filter page))) AssetSummary.ofRow

end AssetRegistry.Assets
