import AssetRegistry.Json.Scalar
import AssetRegistry.Store.Row

namespace AssetRegistry

/-- One row of the ledger. Rows are only ever added and archived; an asset is assigned as long as it has a live row with
the status `assigned`. -/
structure LedgerEntry where
  id : Uuid
  assetId : Uuid
  status : AssetStatus
  assignedTo : Option Uuid
  sentToService : Option String
  createdAt : Instant
  archivedAt : Option Instant
  deriving DecidableEq

/-- One row of the ledger in the history of its asset. -/
structure AssetEvent where
  id : Uuid
  status : AssetStatus
  assignedTo : Option Uuid
  assignedToName : Option String
  sentToService : Option String
  createdAt : Instant
  archivedAt : Option Instant
  deriving DecidableEq

/-- One row of the ledger in the history of a user who held the asset. -/
structure UserEvent where
  id : Uuid
  assetId : Uuid
  serialNo : String
  assetType : AssetType
  brand : String
  model : String
  status : AssetStatus
  assignedAt : Instant
  returnedAt : Option Instant
  deriving DecidableEq

open Store

def LedgerEntry.ofRow (row : Row) : Except ClientError LedgerEntry := do
  let id ← Row.get row "id" .uuid
  let assetId ← Row.get row "asset_id" .uuid
  let status ← Row.get row "status" .label
  let assignedTo ← Row.get row "assigned_to_user" (.option .uuid)
  let sentToService ← Row.get row "sent_to_service" (.option .text)
  let createdAt ← Row.get row "created_at" .instant
  let archivedAt ← Row.get row "archived_at" (.option .instant)
  pure { id, assetId, status, assignedTo, sentToService, createdAt, archivedAt }

def AssetEvent.ofRow (row : Row) : Except ClientError AssetEvent := do
  let id ← Row.get row "id" .uuid
  let status ← Row.get row "status" .label
  let assignedTo ← Row.get row "assigned_to_user" (.option .uuid)
  let assignedToName ← Row.get row "assigned_to_name" (.option .text)
  let sentToService ← Row.get row "sent_to_service" (.option .text)
  let createdAt ← Row.get row "created_at" .instant
  let archivedAt ← Row.get row "archived_at" (.option .instant)
  pure { id, status, assignedTo, assignedToName, sentToService, createdAt, archivedAt }

def UserEvent.ofRow (row : Row) : Except ClientError UserEvent := do
  let id ← Row.get row "id" .uuid
  let assetId ← Row.get row "asset_id" .uuid
  let serialNo ← Row.get row "serial_no" .text
  let assetType ← Row.get row "asset_type" .label
  let brand ← Row.get row "brand" .text
  let model ← Row.get row "model" .text
  let status ← Row.get row "status" .label
  let assignedAt ← Row.get row "assigned_at" .instant
  let returnedAt ← Row.get row "returned_at" (.option .instant)
  pure { id, assetId, serialNo, assetType, brand, model, status, assignedAt, returnedAt }

def LedgerEntry.toJson (e : LedgerEntry) : Json :=
  .object
    [("id", e.id.toJson), ("asset_id", e.assetId.toJson), ("status", Vocabulary.toJson e.status),
     ("assigned_to_user", .ofOption Uuid.toJson e.assignedTo), ("sent_to_service", .ofOption .text e.sentToService),
     ("created_at", e.createdAt.toJson), ("archived_at", .ofOption Instant.toJson e.archivedAt)]

def AssetEvent.toJson (e : AssetEvent) : Json :=
  .object
    [("id", e.id.toJson), ("status", Vocabulary.toJson e.status),
     ("assigned_to_user", .ofOption Uuid.toJson e.assignedTo), ("assigned_to_name", .ofOption .text e.assignedToName),
     ("sent_to_service", .ofOption .text e.sentToService), ("created_at", e.createdAt.toJson),
     ("archived_at", .ofOption Instant.toJson e.archivedAt)]

def UserEvent.toJson (e : UserEvent) : Json :=
  .object
    [("id", e.id.toJson), ("asset_id", e.assetId.toJson), ("serial_no", .text e.serialNo),
     ("asset_type", Vocabulary.toJson e.assetType), ("brand", .text e.brand), ("model", .text e.model),
     ("status", Vocabulary.toJson e.status), ("assigned_at", e.assignedAt.toJson),
     ("returned_at", .ofOption Instant.toJson e.returnedAt)]

end AssetRegistry
