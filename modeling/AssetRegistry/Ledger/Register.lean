import AssetRegistry.Ledger.Basic
import AssetRegistry.Store.Dialogue

namespace AssetRegistry.Ledger

open Store

def isAvailable (assetId : Uuid) : Exchange StoreError Bool := do
  return !(← fetchOne (.isAssigned assetId) (Row.scalar .flag))

def recordStatus (assetId : Uuid) (status : AssetStatus) : Exchange StoreError LedgerEntry :=
  fetchOne (.recordStatus assetId status) LedgerEntry.ofRow

def insertAssignment (assetId userId : Uuid) : Exchange StoreError LedgerEntry :=
  fetchOne (.insertAssignment assetId userId) LedgerEntry.ofRow

def findAssignment (assetId : Uuid) : Exchange StoreError (Option Uuid) :=
  fetchOptional (.findAssignment assetId) (Row.scalar .uuid)

/-- Archives a live row; tells whether there was one. -/
def archiveEntry (id : Uuid) : Exchange StoreError Bool := do return 0 < (← execute (.archiveEntry id))

/-- All rows of an asset, the oldest first. -/
def assetTimeline (assetId : Uuid) : Exchange StoreError (List AssetEvent) :=
  fetchAll (.assetTimeline assetId) AssetEvent.ofRow

/-- All rows that ever assigned an asset to the user, the oldest first. -/
def userTimeline (userId : Uuid) : Exchange StoreError (List UserEvent) :=
  fetchAll (.userTimeline userId) UserEvent.ofRow

def countAssignments (userId : Uuid) : Exchange StoreError Int64 :=
  fetchOne (.countAssignments userId) (Row.scalar .int64)

end AssetRegistry.Ledger
