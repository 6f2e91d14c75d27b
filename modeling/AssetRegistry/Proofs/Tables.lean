import AssetRegistry.Ledger.Basic
import AssetRegistry.Proofs.Ensures
import Mathlib.Data.List.AList

namespace AssetRegistry.Store

/-- A row with the times at which it was inserted and archived. -/
structure Stored (ρ : Type) where
  data : ρ
  createdAt : Instant
  archivedAt : Option Instant := none
  deriving DecidableEq

/-- The row is not archived. -/
def Stored.live {ρ : Type} (row : Stored ρ) : Bool := row.archivedAt.isNone

/-- The rows of a table by their identifiers. -/
abbrev Table (ρ : Type) := AList fun _ : Uuid => Stored ρ

namespace Table
variable {ρ : Type}

/-- The row of an identifier unless it is archived. -/
def live? (t : Table ρ) (id : Uuid) : Option (Stored ρ) := (t.lookup id).filter (·.live)

/-- The row that archiving writes, if there is a live one. -/
def stamped (t : Table ρ) (id : Uuid) (now : Instant) : Table ρ :=
  match t.live? id with
  | some row => .singleton id { row with archivedAt := some now }
  | none => ∅

@[simp] theorem lookup_union (own base : Table ρ) (id : Uuid) :
    (own ∪ base).lookup id = (own.lookup id).or (base.lookup id) := by
  by_cases member : id ∈ own
  · obtain ⟨row, found⟩ := Option.isSome_iff_exists.1 (AList.lookup_isSome.2 member)
    rw [AList.lookup_union_left member, found, Option.some_or]
  · rw [AList.lookup_union_right member, AList.lookup_eq_none.2 member, Option.none_or]

@[simp] theorem lookup_singleton (id other : Uuid) (row : Stored ρ) :
    (AList.singleton id row : Table ρ).lookup other = if other = id then some row else none := by
  rw [← AList.insert_empty]
  by_cases same : other = id
  · subst same
    rw [AList.lookup_insert, if_pos rfl]
  · rw [AList.lookup_insert_ne same, if_neg same, AList.lookup_empty]

theorem live?_eq_some {t : Table ρ} {id : Uuid} {row : Stored ρ} :
    t.live? id = some row ↔ t.lookup id = some row ∧ row.live = true := by
  simp [live?]

/-- To archive a row rewrites that row and no other, and only if it is live. -/
theorem lookup_stamped (t : Table ρ) (id other : Uuid) (now : Instant) :
    (t.stamped id now).lookup other =
      if other = id then (t.live? id).map fun row => { row with archivedAt := some now } else none := by
  unfold stamped
  cases found : t.live? id with
  | none => simp
  | some row => simp

theorem mem_singleton {id other : Uuid} {row : Stored ρ} : other ∈ (AList.singleton id row : Table ρ) ↔ other = id := by
  rw [← AList.lookup_isSome, lookup_singleton]
  by_cases same : other = id <;> simp [same]

theorem lookup_stamped_eq_some {t : Table ρ} {id other : Uuid} {now : Instant} {row : Stored ρ} :
    (t.stamped id now).lookup other = some row ↔
      other = id ∧ ∃ old, t.lookup id = some old ∧ old.live = true ∧ row = { old with archivedAt := some now } := by
  rw [lookup_stamped]
  by_cases same : other = id
  · rw [if_pos same, Option.map_eq_some_iff]
    constructor
    · rintro ⟨old, found, rfl⟩
      exact ⟨same, old, (live?_eq_some.1 found).1, (live?_eq_some.1 found).2, rfl⟩
    · rintro ⟨_, old, found, live, rfl⟩
      exact ⟨old, live?_eq_some.2 ⟨found, live⟩, rfl⟩
  · simp [same]

/-- An archived row is live no more, and all others are as they were. -/
theorem live?_stamped (t : Table ρ) (id other : Uuid) (now : Instant) :
    (t.stamped id now ∪ t).live? other = if other = id then none else t.live? other := by
  rw [live?, lookup_union, lookup_stamped]
  by_cases same : other = id
  · subst same
    cases isLive : t.live? other with
    | some row => simp [Stored.live]
    | none => simpa [live?] using isLive
  · simp [same, live?]

theorem mem_stamped {t : Table ρ} {id other : Uuid} {now : Instant} (member : other ∈ t.stamped id now) :
    other = id := by
  obtain ⟨row, found⟩ := Option.isSome_iff_exists.1 (AList.lookup_isSome.2 member)
  exact (lookup_stamped_eq_some.1 found).1

end Table

/-- What a row of the ledger says. -/
structure EntryData where
  assetId : Uuid
  status : AssetStatus
  assignedTo : Option Uuid
  deriving DecidableEq

/-- The tables that assignments depend on. Of a user only the times matter. -/
structure Tables where
  assets : Table NewAsset := ∅
  entries : Table EntryData := ∅
  users : Table Unit := ∅

/-- What of an asset is found in the tables of models and brands. -/
structure ModelColumns where
  modelName : String
  assetType : AssetType
  brandId : Uuid
  brandName : String

/-- What a statement needs besides its own tables: identifiers of new rows, the time, and what other tables hold. -/
structure Supply where
  assetId : Uuid
  entryId : Uuid
  now : Instant
  model : Uuid → ModelColumns
  /-- The answer of a statement about other tables. -/
  elsewhere : Reply

namespace Tables

instance : EmptyCollection Tables := ⟨{}⟩

/-- Rows of the first tables hide those of the second ones. -/
instance : Union Tables := ⟨fun own base =>
  { assets := own.assets ∪ base.assets, entries := own.entries ∪ base.entries, users := own.users ∪ base.users }⟩

@[simp] theorem empty_assets : (∅ : Tables).assets = ∅ := rfl

@[simp] theorem empty_entries : (∅ : Tables).entries = ∅ := rfl

@[simp] theorem empty_users : (∅ : Tables).users = ∅ := rfl

@[simp] theorem union_assets (own base : Tables) : (own ∪ base).assets = own.assets ∪ base.assets := rfl

@[simp] theorem union_entries (own base : Tables) : (own ∪ base).entries = own.entries ∪ base.entries := rfl

@[simp] theorem union_users (own base : Tables) : (own ∪ base).users = own.users ∪ base.users := rfl

@[simp] theorem empty_union (t : Tables) : ∅ ∪ t = t :=
  congr (congr (congrArg Tables.mk AList.empty_union) AList.empty_union) AList.empty_union

@[simp] theorem union_empty (t : Tables) : t ∪ ∅ = t :=
  congr (congr (congrArg Tables.mk AList.union_empty) AList.union_empty) AList.union_empty

/-- The live rows with the status `assigned` that say what is wanted, with their identifiers. -/
def assignments (t : Tables) (wanted : EntryData → Bool) : List (Uuid × EntryData) :=
  (t.entries.entries.filter fun e => e.2.live && e.2.data.status = .assigned && wanted e.2.data).map fun e =>
    (e.1, e.2.data)

/-- The newest live row of an asset, whose status is the one told. -/
def current? (t : Tables) (assetId : Uuid) : Option (Stored EntryData) :=
  ((t.entries.entries.map (·.2)).filter fun row => row.live && row.data.assetId = assetId).maxOn? (·.createdAt.micros)

/-- The columns of a ledger row. -/
def entryRow (id : Uuid) (row : Stored EntryData) : Row :=
  [("id", .uuid id), ("asset_id", .uuid row.data.assetId), ("status", .ofLabel row.data.status),
   ("assigned_to_user", .ofOption .uuid row.data.assignedTo), ("sent_to_service", .null),
   ("created_at", .instant row.createdAt), ("archived_at", .ofOption .instant row.archivedAt)]

/-- The row of an asset as it is read, with its model and brand and its newest live ledger row. -/
def assetRow (id : Uuid) (asset : Stored NewAsset) (model : ModelColumns) (current : Option (Stored EntryData)) : Row :=
  [("id", .uuid id), ("serial_no", .text asset.data.serialNo), ("owned_by", .ofLabel asset.data.ownedBy),
   ("purchased_date", .date asset.data.purchasedDate),
   ("warranty_start_date", .ofOption .date asset.data.warrantyStart),
   ("warranty_exp_date", .ofOption .date asset.data.warrantyEnd), ("specs_id", .uuid asset.data.specsId),
   ("model_id", .uuid asset.data.modelId), ("model_name", .text model.modelName),
   ("asset_type", .ofLabel model.assetType), ("brand_id", .uuid model.brandId), ("brand_name", .text model.brandName),
   ("status", .ofLabel ((current.map (·.data.status)).getD .available)),
   ("assigned_to", .ofOption .uuid (current.bind (·.data.assignedTo))), ("created_by", .uuid asset.data.createdBy),
   ("created_at", .instant asset.createdAt)]

def idRow (id : Uuid) : Row := [("id", .uuid id)]

/-- The store counts in 64 bits. -/
def countReply (count : Nat) : Reply :=
  if count < 0x8000000000000000 then .rows [[("count", .integer count)]]
  else .failed { code := "22003", message := "bigint out of range" }

/-- A ledger row that is added now. -/
def newEntry (new : Supply) (assetId : Uuid) (status : AssetStatus) (assignedTo : Option Uuid) : Stored EntryData where
  data := { assetId, status, assignedTo }
  createdAt := new.now

/-- What a statement is answered on given tables. -/
def answer (t : Tables) (new : Supply) : Statement → Reply
  | .lockAsset id => .rows ((t.assets.live? id).toList.map fun _ => idRow id)
  | .lockUser id _ => .rows ((t.users.live? id).toList.map fun _ => idRow id)
  | .isAssigned assetId => .rows [[("exists", .flag !(t.assignments (·.assetId = assetId)).isEmpty)]]
  | .findAssignment assetId => .rows ((t.assignments (·.assetId = assetId)).map fun e => idRow e.1)
  | .countAssignments userId => countReply (t.assignments (·.assignedTo = some userId)).length
  | .findAsset id =>
    .rows ((t.assets.live? id).toList.map fun asset =>
      assetRow id asset (new.model asset.data.modelId) (t.current? id))
  | .insertAsset _ => .rows [idRow new.assetId]
  | .recordStatus assetId status => .rows [entryRow new.entryId (newEntry new assetId status none)]
  | .insertAssignment assetId userId => .rows [entryRow new.entryId (newEntry new assetId .assigned (some userId))]
  | .archiveEntry id => .affected (t.entries.live? id).toList.length
  | .archiveAsset id _ => .affected (t.assets.live? id).toList.length
  | .archiveUser id _ => .affected (t.users.live? id).toList.length
  | _ => new.elsewhere

/-- The rows that a statement adds or rewrites. -/
def written (t : Tables) (new : Supply) : Statement → Tables
  | .insertAsset asset => { assets := .singleton new.assetId { data := asset, createdAt := new.now } }
  | .recordStatus assetId status => { entries := .singleton new.entryId (newEntry new assetId status none) }
  | .insertAssignment assetId userId =>
    { entries := .singleton new.entryId (newEntry new assetId .assigned (some userId)) }
  | .archiveEntry id => { entries := t.entries.stamped id new.now }
  | .archiveAsset id _ => { assets := t.assets.stamped id new.now }
  | .archiveUser id _ => { users := t.users.stamped id new.now }
  | _ => ∅

/-- The ledger entry is live and says that an asset is assigned. -/
def Assigns (t : Tables) (entry : Uuid) (data : EntryData) : Prop :=
  data.status = .assigned ∧ ∃ row, t.entries.lookup entry = some row ∧ row.live = true ∧ row.data = data

theorem mem_assignments {t : Tables} {wanted : EntryData → Bool} {entry : Uuid} {data : EntryData} :
    (entry, data) ∈ t.assignments wanted ↔ t.Assigns entry data ∧ wanted data = true := by
  simp only [assignments, List.mem_map, List.mem_filter, Bool.and_eq_true, decide_eq_true_eq, Prod.mk.injEq, Assigns]
  constructor
  · rintro ⟨⟨id, row⟩, ⟨member, ⟨live, assigned⟩, isWanted⟩, rfl, rfl⟩
    exact ⟨⟨assigned, row, AList.mem_lookup_iff.2 member, live, rfl⟩, isWanted⟩
  · rintro ⟨⟨assigned, row, found, live, rfl⟩, isWanted⟩
    exact ⟨⟨entry, row⟩, ⟨AList.mem_lookup_iff.1 found, ⟨live, assigned⟩, isWanted⟩, rfl, rfl⟩

theorem Assigns.unique {t : Tables} {entry : Uuid} {data data' : EntryData} (assigns : t.Assigns entry data)
    (assigns' : t.Assigns entry data') : data = data' := by
  obtain ⟨_, row, found, _, rfl⟩ := assigns
  obtain ⟨_, row', found', _, rfl⟩ := assigns'
  obtain rfl : row = row' := by simpa [found] using found'
  rfl

/-- An older row assigns as long as no newer one stands in its place. -/
theorem assigns_union {own base : Tables} {entry : Uuid} {data : EntryData} :
    (own ∪ base).Assigns entry data ↔
      own.Assigns entry data ∨ own.entries.lookup entry = none ∧ base.Assigns entry data := by
  cases found : own.entries.lookup entry with
  | none => simp [Assigns, found]
  | some row => simp [Assigns, found]

@[simp] theorem not_assigns_empty (entry : Uuid) (data : EntryData) : ¬(∅ : Tables).Assigns entry data := by
  simp [Assigns]

theorem assignments_eq_nil {t : Tables} {wanted : EntryData → Bool} :
    t.assignments wanted = [] ↔ ∀ entry data, t.Assigns entry data → wanted data = false := by
  constructor
  · intro none entry data assigns
    have absent : (entry, data) ∉ t.assignments wanted := by simp [none]
    simpa [mem_assignments, assigns] using absent
  · intro unwanted
    refine List.eq_nil_iff_forall_not_mem.2 fun ⟨entry, data⟩ member => ?_
    obtain ⟨assigns, isWanted⟩ := mem_assignments.1 member
    simp [unwanted entry data assigns] at isWanted

@[simp] theorem first?_idRows {α : Type} (found : List α) (id : α → Uuid) :
    Reply.first? (Row.scalar .uuid) (.rows (found.map fun a => idRow (id a))) = .ok (found.head?.map id) := by
  cases found <;> rfl

/-- A lock on an asset finds it exactly if it is live. -/
@[simp] theorem first?_lockAsset (t : Tables) (new : Supply) (id : Uuid) :
    Reply.first? (Row.scalar .uuid) (t.answer new (.lockAsset id)) = .ok ((t.assets.live? id).map fun _ => id) := by
  refine (first?_idRows _ fun _ => id).trans ?_
  cases t.assets.live? id <;> rfl

@[simp] theorem first?_lockUser (t : Tables) (new : Supply) (id : Uuid) (exclusive : Bool) :
    Reply.first? (Row.scalar .uuid) (t.answer new (.lockUser id exclusive)) =
      .ok ((t.users.live? id).map fun _ => id) := by
  refine (first?_idRows _ fun _ => id).trans ?_
  cases t.users.live? id <;> rfl

@[simp] theorem first?_findAssignment (t : Tables) (new : Supply) (assetId : Uuid) :
    Reply.first? (Row.scalar .uuid) (t.answer new (.findAssignment assetId)) =
      .ok ((t.assignments (·.assetId = assetId)).head?.map (·.1)) := first?_idRows _ _

/-- An asset is told assigned exactly if some row assigns it. -/
@[simp] theorem first_isAssigned (t : Tables) (new : Supply) (assetId : Uuid) :
    Reply.first (Row.scalar .flag) (t.answer new (.isAssigned assetId)) =
      .ok !(t.assignments (·.assetId = assetId)).isEmpty := rfl

/-- A count within 64 bits reads as the number that it is. -/
theorem first_countReply {count : Nat} (fits : count < 0x8000000000000000) :
    Reply.first (Row.scalar .int64) (countReply count) = .ok (Int64.ofInt count) := by
  simp only [countReply, if_pos fits]
  rfl

/-- A count that is answered at all is within 64 bits. -/
theorem fits_of_countReply {count : Nat} (counted : (countReply count).isFailed = false) : count < 0x8000000000000000 := by
  by_contra tooMany
  rw [countReply, if_neg tooMany] at counted
  cases counted

theorem toInt_count {count : Nat} (fits : count < 0x8000000000000000) : (Int64.ofInt count).toInt = count :=
  Int64.toInt_ofInt_of_le (by omega) (by omega)

theorem eq_zero_of_first_countReply {count : Nat} {held : Int64}
    (read : Reply.first (Row.scalar .int64) (countReply count) = .ok held) (nothing : ¬0 < held) : count = 0 := by
  by_cases fits : count < 0x8000000000000000
  · rw [first_countReply fits] at read
    obtain rfl := Except.ok.inj read
    rw [Int64.lt_iff_toInt_lt, toInt_count fits] at nothing
    simpa using nothing
  · rw [countReply, if_neg fits] at read
    cases read

theorem get_head {α : Type} (name : String) (v : Value) (row : Row) (read : Reader α) :
    Row.get ((name, v) :: row) name read = (read v).mapError (.columnUnreadable (.named name)) := by
  simp [Row.get]

theorem get_tail {α : Type} {name other : String} (differ : other ≠ name) (v : Value) (row : Row) (read : Reader α) :
    Row.get ((name, v) :: row) other read = Row.get row other read := by
  unfold Row.get
  rw [List.lookup_cons, beq_eq_false_iff_ne.2 differ]

theorem label_status (status : AssetStatus) : Reader.label (.ofLabel status) = .ok status := by cases status <;> rfl

theorem label_owner (owner : Owner) : Reader.label (.ofLabel owner) = .ok owner := by cases owner <;> rfl

theorem label_type (type : AssetType) : Reader.label (.ofLabel type) = .ok type := by cases type <;> rfl

theorem option_uuid (id : Option Uuid) : Reader.option Reader.uuid (.ofOption .uuid id) = .ok id := by cases id <;> rfl

theorem option_date (date : Option Date) : Reader.option Reader.date (.ofOption .date date) = .ok date := by
  cases date <;> rfl

theorem option_instant (time : Option Instant) : Reader.option Reader.instant (.ofOption .instant time) = .ok time := by
  cases time <;> rfl

/-- The entry that is read from the columns of a ledger row. -/
def readEntry (id : Uuid) (row : Stored EntryData) : LedgerEntry where
  id := id
  assetId := row.data.assetId
  status := row.data.status
  assignedTo := row.data.assignedTo
  sentToService := none
  createdAt := row.createdAt
  archivedAt := row.archivedAt

/-- A ledger row reads back. -/
theorem ofRow_entryRow (id : Uuid) (row : Stored EntryData) :
    LedgerEntry.ofRow (entryRow id row) = .ok (readEntry id row) := by
  simp only [LedgerEntry.ofRow, entryRow]
  simp [get_head, get_tail, label_status, option_uuid, option_instant]
  rfl

theorem first_entryRow (id : Uuid) (row : Stored EntryData) :
    Reply.first LedgerEntry.ofRow (.rows [entryRow id row]) = .ok (readEntry id row) := by
  rw [Reply.first, ofRow_entryRow]
  rfl

/-- The asset that is read from its columns, those of its model, and its current ledger row. -/
def readAsset (id : Uuid) (asset : Stored NewAsset) (model : ModelColumns) (current : Option (Stored EntryData)) :
    Asset where
  id := id
  serialNo := asset.data.serialNo
  ownedBy := asset.data.ownedBy
  purchasedDate := asset.data.purchasedDate
  warrantyStart := asset.data.warrantyStart
  warrantyEnd := asset.data.warrantyEnd
  specsId := asset.data.specsId
  modelId := asset.data.modelId
  modelName := model.modelName
  assetType := model.assetType
  brandId := model.brandId
  brandName := model.brandName
  status := (current.map (·.data.status)).getD .available
  assignedTo := current.bind (·.data.assignedTo)
  createdBy := asset.data.createdBy
  createdAt := asset.createdAt

/-- An asset reads back from its columns. -/
theorem ofRow_assetRow (id : Uuid) (asset : Stored NewAsset) (model : ModelColumns)
    (current : Option (Stored EntryData)) :
    Asset.ofRow (assetRow id asset model current) = .ok (readAsset id asset model current) := by
  simp only [Asset.ofRow, assetRow]
  simp [get_head, get_tail, label_status, label_owner, label_type, option_uuid, option_date]
  rfl

/-- A look-up of an asset finds the live ones, and reads them. -/
theorem first?_findAsset (t : Tables) (new : Supply) (id : Uuid) :
    Reply.first? Asset.ofRow (t.answer new (.findAsset id)) =
      .ok ((t.assets.live? id).map fun asset => readAsset id asset (new.model asset.data.modelId) (t.current? id)) := by
  rw [answer]
  cases t.assets.live? id with
  | none => rfl
  | some asset =>
    simp only [Option.toList_some, List.map_cons, Reply.first?, ofRow_assetRow]
    rfl

end Tables
end AssetRegistry.Store
