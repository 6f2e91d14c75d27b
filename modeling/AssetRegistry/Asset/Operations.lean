import AssetRegistry.Asset.Register
import AssetRegistry.Asset.Request
import AssetRegistry.Catalogue.Register
import AssetRegistry.Service.Operation
import AssetRegistry.Specs.Exchange

namespace AssetRegistry.Assets

open Store Service

def warrantyOrdered : (start finish : Option Date) → Bool
  | some start, some finish => !finish.before start
  | _, _ => true

def checkWarranty (start finish : Option Date) : Except ServiceError Unit :=
  require (warrantyOrdered start finish) (.validation "warranty_exp_date cannot be before warranty_start_date")

def assetNotFound (id : Uuid) : ServiceError := .notFound ("asset " ++ id.toText ++ " not found")

/-- The first status of an asset. Assets are not assigned by registering them. -/
def initialStatus : Option AssetStatus → Except ServiceError AssetStatus
  | none => .ok .available
  | some .assigned =>
    .error (.validation "initial status must be available or in_service; use assign to hand out an asset")
  | some status => .ok status

/-- What is written of an asset, checked as far as the request alone can tell. -/
structure Registration where
  serialNo : String
  purchasedDate : Date
  brandName : String
  modelName : String
  status : AssetStatus
  assetType : AssetType

/-- Checks a request; the first objection counts. -/
def checkCreate (req : CreateAsset) : Except ServiceError Registration := do
  let serialNo := Text.trim req.serialNo
  require (!serialNo.isEmpty) (.validation "serial_no is required")
  let some purchasedDate := req.purchasedDate | throw (.validation "purchased_date is required")
  let brandName := Text.trim req.model.brand.name
  let modelName := Text.trim req.model.name
  require (!brandName.isEmpty && !modelName.isEmpty) (.validation "model name and brand name are required")
  checkWarranty req.warrantyStart req.warrantyEnd
  let status ← initialStatus req.status
  let assetType ← (resolveType req.model.assetType).mapError .ofAttributes
  pure { serialNo, purchasedDate, brandName, modelName, status, assetType }

/-- Writes brand, model, attributes, asset and first ledger row. -/
def register (actor : Actor) (req : CreateAsset) (r : Registration) : Operation Uuid := do
  let brand ← stored (Brand.findOrInsert r.brandName)
  let model ← stored (Model.findOrInsert brand.id r.modelName r.assetType)
  let specsId ← (Attributes.create r.assetType req.specs).mapError .ofAttributes
  let assetId ← stored <| insert
    { modelId := model.id
      specsId
      serialNo := r.serialNo
      ownedBy := req.ownedBy
      purchasedDate := r.purchasedDate
      warrantyStart := req.warrantyStart
      warrantyEnd := req.warrantyEnd
      createdBy := actor.userId }
  let _ ← stored (Ledger.recordStatus assetId r.status)
  pure assetId

/-- Registers an asset; the result is its identifier. -/
def create (actor : Actor) (req : CreateAsset) : Operation Uuid := do
  let registration ← Exchange.ofExcept (checkCreate req)
  transaction .ofStore (register actor req registration)

def find (id : Uuid) : Operation Asset := do
  match ← stored (lookUp id) with
  | some asset => pure asset
  | none => throw (assetNotFound id)

/-- The columns an update writes to an existing asset. -/
def checkUpdate (existing : Asset) (fields : AssetPatch) : Except ServiceError AssetPatch := do
  let fields := { fields with serialNo := fields.serialNo.map Text.trim }
  require (fields.serialNo.all (!·.isEmpty)) (.validation "serial_no cannot be empty")
  checkWarranty (fields.warrantyStart <|> existing.warrantyStart) (fields.warrantyEnd <|> existing.warrantyEnd)
  pure fields

/-- Writes columns and attributes of an asset of a known type. -/
def writeUpdate (actor : Actor) (id : Uuid) (existing : Asset) (fields : AssetPatch) (specs : Option Json) :
    Operation Unit := do
  if !(← stored (write id fields actor.userId)) then throw (assetNotFound id)
  match specs with
  | some payload =>
    (AttributesPatch.apply existing.assetType existing.specsId payload).mapError .ofAttributes
  | none => pure ()

/-- Changes columns of an asset and, if given, attributes of the type it has. -/
def update (actor : Actor) (id : Uuid) (req : UpdateAsset) : Operation Unit := do
  let existing ← find id
  let fields ← Exchange.ofExcept (checkUpdate existing req.fields)
  transaction .ofStore (writeUpdate actor id existing fields req.payload?)

/-- Locks asset and user, then adds a ledger row unless the asset is assigned already. -/
def handOut (req : AssignAsset) : Operation LedgerEntry := do
  if !(← stored (lock req.assetId)) then throw (assetNotFound req.assetId)
  let locked ← stored (fetchOptional (.lockUser req.userId false) (Row.scalar .uuid))
  if locked.isNone then throw (userNotFound req.userId)
  if !(← stored (Ledger.isAvailable req.assetId)) then throw (.conflict "asset is not available for assignment")
  stored (Ledger.insertAssignment req.assetId req.userId)

def assign (req : AssignAsset) : Operation LedgerEntry := transaction .ofStore (handOut req)

/-- Locks the asset, then archives the ledger row that assigns it. -/
def takeBack (id : Uuid) : Operation Unit := do
  if !(← stored (lock id)) then throw (assetNotFound id)
  match ← stored (Ledger.findAssignment id) with
  | none => throw (.invalidState "asset has no active assignment")
  | some entry =>
    let _ ← stored (Ledger.archiveEntry entry)
    pure ()

def retrieve (id : Uuid) : Operation Unit := transaction .ofStore (takeBack id)

/-- Locks the asset, then archives it unless it is assigned. -/
def withdraw (actor : Actor) (id : Uuid) : Operation Unit := do
  if !(← stored (lock id)) then throw (assetNotFound id)
  if !(← stored (Ledger.isAvailable id)) then
    throw (.invalidState "asset is assigned; retrieve it before archiving")
  let _ ← stored (stampArchived id actor.userId)
  pure ()

def archive (actor : Actor) (id : Uuid) : Operation Unit := transaction .ofStore (withdraw actor id)

def isAvailable (id : Uuid) : Operation Bool := stored (Ledger.isAvailable id)

/-- A window of the live assets that a filter wants. -/
def list (filter : AssetFilter) (page : Query.Page) : Operation (List AssetSummary) := stored (fetchList filter page)

def detail (id : Uuid) : Operation AssetDetail := do
  let asset ← find id
  let attributes ← (Attributes.get asset.assetType asset.specsId).mapError .ofAttributes
  pure { asset, attributes }

def timeline (id : Uuid) : Operation (List AssetEvent) := do
  if !(← stored (wasRegistered id)) then throw (assetNotFound id)
  stored (Ledger.assetTimeline id)

def userTimeline (userId : Uuid) : Operation (List UserEvent) := stored (Ledger.userTimeline userId)

end AssetRegistry.Assets
