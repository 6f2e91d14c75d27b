import AssetRegistry.Asset.Basic
import AssetRegistry.Json.Record

namespace AssetRegistry

structure BrandRequest where
  name : String

structure ModelRequest where
  name : String
  /-- The label of the asset type, looked up only when the asset is registered. -/
  assetType : String
  brand : BrandRequest

/-- What is written to register an asset. -/
structure CreateAsset where
  model : ModelRequest
  serialNo : String
  ownedBy : Owner
  purchasedDate : Option Date
  warrantyStart : Option Date
  warrantyEnd : Option Date
  specs : Json
  status : Option AssetStatus

/-- What is written to update an asset: its columns, and its attributes as they come. -/
structure UpdateAsset where
  fields : AssetPatch
  specs : Option Json

/-- What is written to hand an asset out. -/
structure AssignAsset where
  assetId : Uuid
  userId : Uuid
  deriving DecidableEq

open Json

def BrandRequest.record : Record := ⟨"BrandRef", [.required "name" .text]⟩

def BrandRequest.decoder : Decoder BrandRequest := record.decoder fun (name, _) => { name }

def ModelRequest.record : Record :=
  ⟨"CreateModelRequest", [.required "name" .text, .required "asset_type" .text, .required "brand" BrandRequest.decoder]⟩

def ModelRequest.decoder : Decoder ModelRequest :=
  record.decoder fun (name, assetType, brand, _) => { name, assetType, brand }

def CreateAsset.record : Record :=
  ⟨"CreateAssetRequest",
    [.required "model" ModelRequest.decoder, .required "serial_no" .text, .required "owned_by" (.label (α := Owner)),
     .optional "purchased_date" .date, .optional "warranty_start_date" .date, .optional "warranty_exp_date" .date,
     .withDefault "specs" .json .null, .optional "status" (.label (α := AssetStatus))]⟩

def CreateAsset.decoder : Decoder CreateAsset :=
  record.decoder fun (model, serialNo, ownedBy, purchasedDate, warrantyStart, warrantyEnd, specs, status, _) =>
    { model, serialNo, ownedBy, purchasedDate, warrantyStart, warrantyEnd, specs, status }

def AssignAsset.record : Record := ⟨"AssignAssetRequest", [.required "asset_id" .uuid, .required "user_id" .uuid]⟩

def AssignAsset.decoder : Decoder AssignAsset := record.decoder fun (assetId, userId, _) => { assetId, userId }

/-- Null and the empty object say nothing. -/
def isVoid : Json → Bool
  | .null => true
  | .object [] => true
  | _ => false

/-- The columns of an asset that an update may give. They stand among the other entries of the request. -/
def AssetPatch.record : Record :=
  ⟨"AssetPatch",
    [.optional "serial_no" .text,
     .optional "owned_by" { Decoder.label (α := Owner) with ofJson := Decoder.labelOfJson isVoid },
     .optional "purchased_date" .date, .optional "warranty_start_date" .date, .optional "warranty_exp_date" .date]⟩

def AssetPatch.ofEntries (entries : List (String × Json)) : Except Mismatch AssetPatch :=
  (record.ofEntries entries).map fun (serialNo, ownedBy, purchasedDate, warrantyStart, warrantyEnd, _) =>
    { serialNo, ownedBy, purchasedDate, warrantyStart, warrantyEnd }

namespace UpdateAsset

def noun : String := "struct UpdateAssetRequest"

def specsKey : String := "specs"

def specsOf : Json → Option Json
  | .null => none
  | j => some j

/-- The attributes that a request gives; null gives none. -/
def payload? (req : UpdateAsset) : Option Json := req.specs.bind specsOf

theorem payload?_eq_some_iff {req : UpdateAsset} {payload : Json} :
    req.payload? = some payload ↔ req.specs = some payload ∧ payload ≠ .null := by
  unfold payload?
  cases req.specs with
  | none => simp
  | some given => cases given <;> simp [specsOf] <;> rintro rfl <;> simp

/-- The request of an object's entries, those for the attributes apart. -/
def ofEntries (specs : Option Json) (entries : List (String × Json)) : Except Mismatch UpdateAsset :=
  (AssetPatch.ofEntries entries).map fun fields => { fields, specs := specs.bind specsOf }

def ofJson : Json → Except Mismatch UpdateAsset
  | .object entries => ofEntries (entries.lookup specsKey) (entries.filter (·.1 != specsKey))
  | j => .error (.wrongType j.found noun)

/-- The entries read so far: the attributes, and all others with the last one first. -/
abbrev Gathered := Option Json × List (String × Json)

/-- Reads the value of a key: attributes as they are kept, everything else as it is written. -/
def gather (depth : Nat) (key : String) : Gathered → List Char → Outcome Gathered
  | (specs, entries), cs =>
    if key = specsKey then
      if specs.isSome then mismatch (.duplicateField key) cs
      else (readUnder key (readValue depth) cs).map fun v => (some v, entries)
    else (readUnder key (readWritten depth) cs).map fun v => (specs, (key, v) :: entries)

/-- Reads all entries first and looks at them afterwards. -/
def read (depth : Nat) (cs : List Char) : Outcome UpdateAsset :=
  match skipSpace cs with
  | [] => malformed .endInValue []
  | c :: rest =>
    if c = Char.ofNat 0x7B then
      if depth ≤ 1 then malformed .tooDeep (c :: rest)
      else
        (readEntries (gather (depth - 1)) (rest.length + 1) true (none, []) rest).bind fun (specs, entries) rest =>
          match ofEntries specs entries.reverse with
          | .error m => mismatch m rest
          | .ok request => (closeObject rest).map fun _ => request
    else readUnwanted noun (c :: rest)

/-- The columns and the attributes are given side by side in one object. -/
def decoder : Decoder UpdateAsset := ⟨ofJson, read⟩

end UpdateAsset

end AssetRegistry
