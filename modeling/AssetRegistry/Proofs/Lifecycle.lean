import AssetRegistry.Proofs.Machine
import AssetRegistry.Proofs.Protocol

namespace AssetRegistry.Service

open Store Exchange

namespace Machine
variable {m : Machine} {a : Uuid}

theorem phase_of_live (isLive : (m.assets.lookup a).any Phase.isLive = true) :
    (∃ first, m.assets.lookup a = some (.free first)) ∨ ∃ first u, m.assets.lookup a = some (.held first u) := by
  cases found : m.assets.lookup a with
  | none => simp [found] at isLive
  | some phase =>
    cases phase with
    | free first => exact Or.inl ⟨first, rfl⟩
    | held first u => exact Or.inr ⟨first, u, rfl⟩
    | archived first => simp [found, Phase.isLive] at isLive

theorem assign_of_not_live {req : AssignAsset} (notLive : (m.assets.lookup req.assetId).any Phase.isLive = false) :
    m.assign req = (.error (Assets.assetNotFound req.assetId), m) := by
  rcases found : m.assets.lookup req.assetId with _ | _ | _ | _ <;> simp_all [assign, Phase.isLive]

theorem assign_of_no_user {req : AssignAsset} (isLive : (m.assets.lookup req.assetId).any Phase.isLive = true)
    (noUser : m.live req.userId = false) : m.assign req = (.error (userNotFound req.userId), m) := by
  rcases phase_of_live isLive with ⟨first, found⟩ | ⟨first, u, found⟩ <;> simp [assign, found, noUser]

theorem retrieve_of_not_live (notLive : (m.assets.lookup a).any Phase.isLive = false) :
    m.retrieve a = (.error (Assets.assetNotFound a), m) := by
  rcases found : m.assets.lookup a with _ | _ | _ | _ <;> simp_all [retrieve, Phase.isLive]

theorem archive_of_not_live (notLive : (m.assets.lookup a).any Phase.isLive = false) :
    m.archive a = (.error (Assets.assetNotFound a), m) := by
  rcases found : m.assets.lookup a with _ | _ | _ | _ <;> simp_all [archive, Phase.isLive]

/-- The call has been answered as the machine answers it, and what is committed refines the machine's new state. -/
def Done (m : Machine) (call : Mutation) (result : Except ServiceError call.Result) (t : Tables) : Prop :=
  ∃ m', m.Answers call result m' ∧ Refines t m'

end Machine

namespace Refines
variable {t : Tables} {m : Machine}

theorem live_asset (refines : Refines t m) (a : Uuid) :
    (t.assets.live? a).isSome = (m.assets.lookup a).any Phase.isLive := by
  cases found : m.assets.lookup a with
  | none =>
    have absent := AList.lookup_eq_none.2 (refines.unknown a found).1
    simp [Table.live?, absent]
  | some phase => exact (refines.known a phase found).2.1

/-- The work of an assignment answers as the machine does, and what it writes refines the machine's new state. -/
theorem handOut_serves (refines : Refines t m) (req : AssignAsset) {s : Session} (isOpen : s.Open t ∅) :
    (Assets.handOut req).Ensures serving s
      (fun entry s => ∃ written, s.Open t written ∧ m.Done (.assignAsset req) (.ok entry) (written ∪ t))
      fun e s => (∃ written, s.Open t written) ∧ m.assign req = (.error e, m) := by
  simp only [Assets.handOut, Assets.lock, Ledger.isAvailable, Ledger.insertAssignment, fetchOptional_eq_single,
    fetchOne_eq_single, ensures_bind, ensures_stored, ensures_pure, ensures_ite, ensures_throw]
  have assetRead := refines.live_asset req.assetId
  have userRead := refines.users req.userId
  refine serves_known isOpen (fun _ => rfl) (fun new => Tables.first?_lockAsset t new _) fun s isOpen => ?_
  refine ⟨fun missing => ⟨⟨_, isOpen⟩, Machine.assign_of_not_live (by simp_all)⟩, fun locked => ?_⟩
  have assetLive : (m.assets.lookup req.assetId).any Phase.isLive = true := by simp_all
  refine serves_known isOpen (fun _ => rfl) (fun new => Tables.first?_lockUser t new _ _) fun s isOpen => ?_
  refine ⟨fun missing => ⟨⟨_, isOpen⟩, Machine.assign_of_no_user assetLive (by simp_all)⟩, fun locked' => ?_⟩
  have userLive : m.live req.userId = true := by
    rw [← userRead]
    simpa [Option.isSome_iff_ne_none] using locked'
  refine serves_known isOpen (fun _ => rfl) (fun new => Tables.first_isAssigned t new _) fun s isOpen => ?_
  rw [refines.isEmpty_assignments]
  rcases Machine.phase_of_live assetLive with ⟨first, free⟩ | ⟨first, u, held⟩
  · refine ⟨fun assigned => by simp [free, Phase.holder?] at assigned, fun _ => ?_⟩
    refine serves_single isOpen fun new suits => ⟨_, Tables.first_entryRow _ _, fun s isOpen => ⟨_, isOpen, ?_⟩⟩
    rw [Tables.empty_union] at suits ⊢
    rw [Tables.union_empty]
    refine ⟨m.put req.assetId (.held first req.userId), ⟨?_, rfl, rfl, rfl, rfl⟩, ?_⟩
    · simp [Machine.assign, free, userLive]
    · exact refines.handOut free suits.1 suits.2
  · refine ⟨fun _ => ⟨⟨_, isOpen⟩, ?_⟩, fun available => by simp [held, Phase.holder?] at available⟩
    simp [Machine.assign, held, userLive]

theorem takeBack_serves (refines : Refines t m) (id : Uuid) {s : Session} (isOpen : s.Open t ∅) :
    (Assets.takeBack id).Ensures serving s
      (fun _ s => ∃ written, s.Open t written ∧ m.Done (.retrieveAsset id) (.ok ()) (written ∪ t))
      fun e s => (∃ written, s.Open t written) ∧ m.retrieve id = (.error e, m) := by
  simp only [Assets.takeBack, Assets.lock, Ledger.findAssignment, fetchOptional_eq_single, ensures_bind,
    ensures_stored, ensures_pure, ensures_ite, ensures_throw]
  have assetRead := refines.live_asset id
  refine serves_known isOpen (fun _ => rfl) (fun new => Tables.first?_lockAsset t new _) fun s isOpen => ?_
  refine ⟨fun missing => ⟨⟨_, isOpen⟩, Machine.retrieve_of_not_live (by simp_all)⟩, fun locked => ?_⟩
  have assetLive : (m.assets.lookup id).any Phase.isLive = true := by simp_all
  refine serves_known isOpen (fun _ => rfl) (fun new => Tables.first?_findAssignment t new _) fun s isOpen => ?_
  have assigned := refines.isEmpty_assignments id
  cases found : t.assignments fun d => d.assetId = id with
  | nil =>
    rcases Machine.phase_of_live assetLive with ⟨first, free⟩ | ⟨first, u, held⟩
    · exact ⟨⟨_, isOpen⟩, by simp [Machine.retrieve, free]⟩
    · simp [found, held, Phase.holder?] at assigned
  | cons entry others =>
    obtain ⟨e, d⟩ := entry
    obtain ⟨assigns, about⟩ := Tables.mem_assignments.1 (found ▸ List.mem_cons_self)
    simp only [List.head?_cons, Option.map_some, Ledger.archiveEntry, execute_eq_single, ensures_bind, ensures_stored,
      ensures_pure]
    refine serves_single isOpen fun new _ => ⟨_, rfl, fun s isOpen => ⟨_, isOpen, ?_⟩⟩
    rw [Tables.empty_union, Tables.union_empty]
    rcases Machine.phase_of_live assetLive with ⟨first, free⟩ | ⟨first, u, held⟩
    · simp [found, free, Phase.holder?] at assigned
    · refine ⟨m.put id (.free first), ?_, refines.takeBack held assigns (by simpa using about) new⟩
      show m.retrieve id = (.ok (), m.put id (.free first))
      simp [Machine.retrieve, held]

/-- An asset is archived as the machine archives it: only one that is live and free. -/
theorem withdraw_serves (refines : Refines t m) (actor : Actor) (id : Uuid) {s : Session} (isOpen : s.Open t ∅) :
    (Assets.withdraw actor id).Ensures serving s
      (fun _ s => ∃ written, s.Open t written ∧ m.Done (.archiveAsset actor id) (.ok ()) (written ∪ t))
      fun e s => (∃ written, s.Open t written) ∧ m.archive id = (.error e, m) := by
  simp only [Assets.withdraw, Assets.lock, Ledger.isAvailable, Assets.stampArchived, fetchOptional_eq_single,
    fetchOne_eq_single, execute_eq_single, ensures_bind, ensures_stored, ensures_pure, ensures_ite, ensures_throw]
  have assetRead := refines.live_asset id
  refine serves_known isOpen (fun _ => rfl) (fun new => Tables.first?_lockAsset t new _) fun s isOpen => ?_
  refine ⟨fun missing => ⟨⟨_, isOpen⟩, Machine.archive_of_not_live (by simp_all)⟩, fun locked => ?_⟩
  have assetLive : (m.assets.lookup id).any Phase.isLive = true := by simp_all
  refine serves_known isOpen (fun _ => rfl) (fun new => Tables.first_isAssigned t new _) fun s isOpen => ?_
  rw [refines.isEmpty_assignments]
  rcases Machine.phase_of_live assetLive with ⟨first, free⟩ | ⟨first, u, held⟩
  · refine ⟨fun assigned => by simp [free, Phase.holder?] at assigned, fun _ => ?_⟩
    refine serves_single isOpen fun new _ => ⟨_, rfl, fun s isOpen => ⟨_, isOpen, ?_⟩⟩
    rw [Tables.empty_union, Tables.union_empty]
    refine ⟨m.put id (.archived first), ?_, refines.withdraw free new _⟩
    show m.archive id = (.ok (), m.put id (.archived first))
    simp [Machine.archive, free]
  · refine ⟨fun _ => ⟨⟨_, isOpen⟩, ?_⟩, fun available => by simp [held, Phase.holder?] at available⟩
    simp [Machine.archive, held]

theorem dismiss_serves (refines : Refines t m) (actor : Actor) (id : Uuid) (another : id ≠ actor.userId) {s : Session}
    (isOpen : s.Open t ∅) :
    (Users.dismiss actor id).Ensures serving s
      (fun _ s => ∃ written, s.Open t written ∧ m.Done (.deleteUser actor id) (.ok ()) (written ∪ t))
      fun e s => (∃ written, s.Open t written) ∧ m.delete actor id = (.error e, m) := by
  simp only [Users.dismiss, Users.lock, Ledger.countAssignments, Users.stampArchived, fetchOptional_eq_single,
    fetchOne_eq_single, execute_eq_single, ensures_bind, ensures_stored, ensures_pure, ensures_ite, ensures_throw]
  have userRead := refines.users id
  refine serves_known isOpen (fun _ => rfl) (fun new => Tables.first?_lockUser t new _ _) fun s isOpen => ?_
  refine ⟨fun missing => ⟨⟨_, isOpen⟩, by simp_all [Machine.delete]⟩, fun locked => ?_⟩
  have userLive : m.live id = true := by simp_all
  have counted := refines.length_assignments id
  refine serves_read isOpen (fun _ => rfl) (fun new held s succeeds reads isOpen => ?_) fun new e s succeeds reads => ?_
  · have fits := Tables.fits_of_countReply succeeds
    rw [Tables.answer, Tables.first_countReply fits] at reads
    obtain rfl := Except.ok.inj reads
    have positive : 0 < Int64.ofInt (t.assignments (·.assignedTo = some id)).length ↔ m.holdings id ≠ [] := by
      rw [Int64.lt_iff_toInt_lt, Tables.toInt_count fits, counted, ← List.length_pos_iff]
      simp
    refine ⟨fun holds => ⟨⟨_, isOpen⟩, ?_⟩, fun nothing => ?_⟩
    · rw [Tables.toInt_count fits, counted]
      simp [Machine.delete, another, userLive, positive.1 holds]
    · refine serves_single isOpen fun new _ => ⟨_, rfl, fun s isOpen => ⟨_, isOpen, ?_⟩⟩
      rw [Tables.empty_union, Tables.union_empty]
      have empty : m.holdings id = [] := by
        by_contra holds
        exact nothing (positive.2 holds)
      refine ⟨{ m with live := Function.update m.live id false }, ?_, refines.dismiss new _⟩
      show m.delete actor id = (.ok (), _)
      simp [Machine.delete, another, userLive, empty]
  · rw [Tables.answer, Tables.first_countReply (Tables.fits_of_countReply succeeds)] at reads
    cases reads

/-- The same for a registration, where the identifier of the new asset is the store's to choose. -/
theorem register_serves (refines : Refines t m) (actor : Actor) {req : CreateAsset} {r : Assets.Registration}
    (checked : Assets.checkCreate req = .ok r) {s : Session} (isOpen : s.Open t ∅) :
    (Assets.register actor req r).Ensures serving s
      (fun id s => ∃ written, s.Open t written ∧ m.Done (.createAsset actor req) (.ok id) (written ∪ t))
      fun _ s => (∃ written, s.Open t written) ∧ True := by
  have initial := Assets.checkCreate_status checked
  have elsewhere {α : Type} {q : Statement} (read : Reply → Except StoreError α)
      (writesNothing : ∀ new, t.written new q = ∅) (s : Session) (isOpen : s.Open t ∅) :
      (single q read).Ensures serving s (fun _ s => s.Open t ∅) fun _ s => s.Open t ∅ :=
    serves_read isOpen writesNothing (fun _ _ _ _ _ isOpen => isOpen) fun _ _ _ _ _ isOpen => isOpen
  have brands : (Brand.findOrInsert r.brandName).Ensures serving s (fun _ s => s.Open t ∅) fun _ s => s.Open t ∅ :=
    ensures_findOrInsert (elsewhere _ fun _ => rfl) (elsewhere _ fun _ => rfl) isOpen
  have models (s : Session) (isOpen : s.Open t ∅) (brandId : Uuid) :
      (Model.findOrInsert brandId r.modelName r.assetType).Ensures serving s (fun _ s => s.Open t ∅)
        fun _ s => s.Open t ∅ :=
    ensures_findOrInsert (elsewhere _ fun _ => rfl) (elsewhere _ fun _ => rfl) isOpen
  simp only [Assets.register, Attributes.create, Assets.insert, Ledger.recordStatus, fetchOne_eq_single, ensures_bind,
    ensures_stored, ensures_mapError, ensures_ofExcept]
  refine Dialogue.Ensures.mono brands ?_
  rintro (e | brand) s isOpen
  · exact ⟨⟨_, isOpen⟩, trivial⟩
  refine Dialogue.Ensures.mono (models s isOpen brand.id) ?_
  rintro (e | model) s isOpen
  · exact ⟨⟨_, isOpen⟩, trivial⟩
  refine ⟨fun attributes _ => ?_, fun _ _ => ⟨⟨_, isOpen⟩, trivial⟩⟩
  refine serves_read isOpen (fun _ => rfl) (fun _ specsId s _ _ isOpen => ?_) fun _ _ _ _ _ isOpen =>
    ⟨⟨_, isOpen⟩, trivial⟩
  refine serves_single isOpen fun new suits => ⟨_, rfl, fun s isOpen => ?_⟩
  refine serves_single isOpen fun new' suits' => ⟨_, Tables.first_entryRow _ _, fun s isOpen => ⟨_, isOpen, ?_⟩⟩
  rw [Tables.empty_union] at suits
  have isNew' : new'.entryId ∉ t.entries := fun member => suits'.1 (AList.mem_union.2 (Or.inr member))
  obtain ⟨notAssigned, status⟩ := Assets.initialStatus_eq_ok.1 initial
  refine ⟨m.put new.assetId (.free r.status), ⟨refines.notMem suits, notAssigned, by rw [status]⟩, ?_⟩
  refine refines.register suits isNew' (Assets.initialStatus_ne_assigned initial)
    (AList.empty_union.trans AList.union_empty) ?_ ?_
  · simp [Tables.written]
  · simp [Tables.written]

/-- Around the work a transaction commits exactly what refines the new state, and nothing if the work fails. -/
theorem transaction_serves (refines : Refines t m) (call : Mutation) {work : Operation call.Result}
    {error : ServiceError → Prop}
    (serves : ∀ s : Session, s.Open t ∅ → work.Ensures serving s
      (fun result s => ∃ written, s.Open t written ∧ m.Done call (.ok result) (written ∪ t))
      fun e s => (∃ written, s.Open t written) ∧ error e)
    (failed : ∀ e, error e → m.Answers call (.error e) m) :
    (transaction .ofStore work).Ensures serving { committed := t, opened := none }
      (fun result s => s.opened = none ∧ m.Done call (.ok result) s.committed)
      fun e s => s.opened = none ∧ m.Done call (.error e) s.committed := by
  refine (serves_transaction serves).mono ?_
  rintro (e | result) s ended
  · obtain ⟨rfl, fails⟩ := ended
    exact ⟨rfl, m, failed e fails, refines⟩
  · exact ended

-- Otherwise the check is carried out wherever a goal is compared with what is ensured.
attribute [local irreducible] Assets.checkCreate

/-- Every call does to the tables what it does to the machine. -/
theorem call_serves (refines : Refines t m) {call : Mutation} (lifecycle : InLifecycle call) :
    call.operation.Ensures serving { committed := t, opened := none }
      (fun result s => s.opened = none ∧ m.Done call (.ok result) s.committed)
      fun e s => s.opened = none ∧ m.Done call (.error e) s.committed := by
  cases call with
  | createAsset actor req =>
    refine ensures_bind.2 (ensures_ofExcept.2 ⟨fun r checked => ?_, fun e _ => ⟨rfl, m, rfl, refines⟩⟩)
    exact refines.transaction_serves (.createAsset actor req)
      (fun s isOpen => refines.register_serves actor checked isOpen) fun e _ => rfl
  | assignAsset req =>
    exact refines.transaction_serves (.assignAsset req) (fun s isOpen => refines.handOut_serves req isOpen)
      fun e fails => fails
  | retrieveAsset id =>
    exact refines.transaction_serves (.retrieveAsset id) (fun s isOpen => refines.takeBack_serves id isOpen)
      fun e fails => fails
  | archiveAsset actor id =>
    exact refines.transaction_serves (.archiveAsset actor id) (fun s isOpen => refines.withdraw_serves actor id isOpen)
      fun e fails => fails
  | deleteUser actor id =>
    refine ensures_bind.2 (ensures_ofExcept.2 ⟨fun _ another => ?_, fun e refused => ?_⟩)
    · have another : id ≠ actor.userId := by
        by_contra same
        simp [require, same] at another
      exact refines.transaction_serves (.deleteUser actor id)
        (fun s isOpen => refines.dismiss_serves actor id another isOpen) fun e fails => fails
    · refine ⟨rfl, m, ?_, refines⟩
      show m.delete actor id = (.error e, m)
      by_cases same : id = actor.userId
      · simp [require, same] at refused
        simp [Machine.delete, same, refused]
      · simp [require, same] at refused
  | updateAsset _ _ _ => exact lifecycle.elim
  | createUser _ _ _ => exact lifecycle.elim
  | updateUser _ _ _ _ => exact lifecycle.elim

end Refines

/-- The store is idle, and tells of assets and users what the machine does. -/
structure Machine.Shows (m : Machine) (s : Session) : Prop where
  idle : s.opened = none
  /-- An asset is available unless somebody holds it. -/
  available : ∀ a new, (Assets.isAvailable a).run.Supplied new s →
    (Assets.isAvailable a).run.serve new s = (.ok ((m.assets.lookup a).bind Phase.holder?).isNone, s)
  /-- A live asset is found with its current status and its holder, and no other one is found. -/
  found : ∀ a new, (Assets.find a).run.Supplied new s →
    (∃ phase asset, m.assets.lookup a = some phase ∧ phase.isLive = true ∧
      (Assets.find a).run.serve new s = (.ok asset, s) ∧
      asset.id = a ∧ asset.status = phase.shown ∧ asset.assignedTo = phase.holder?) ∨
    (m.assets.lookup a).any Phase.isLive = false ∧
      (Assets.find a).run.serve new s = (.error (Assets.assetNotFound a), s)
  /-- A user is counted as many assets as are held. -/
  counted : ∀ u new, (Users.activeAssignments u).run.Supplied new s →
    ∃ count, (Users.activeAssignments u).run.serve new s = (.ok count, s) ∧ count.toInt = (m.holdings u).length

namespace Refines
variable {t : Tables} {m : Machine}

/-- The newest live row tells the status and the holder that the phase of the asset has. -/
theorem current_shown (refines : Refines t m) {a : Uuid} {phase : Phase} (found : m.assets.lookup a = some phase)
    (isLive : phase.isLive = true) :
    ((t.current? a).map (·.data.status)).getD .available = phase.shown ∧
      (t.current? a).bind (·.data.assignedTo) = phase.holder? := by
  obtain ⟨_, _, _, ledgered⟩ := refines.known a phase found
  cases phase with
  | free first =>
    cases ledgered with
    | only isFirst status nobody all =>
      rw [current?_eq_some isFirst fun e' row' live => Or.inl (all e' row' live)]
      exact ⟨status, nobody⟩
  | held first u =>
    cases ledgered with
    | @both e₀ e₁ _ row₀ row₁ isFirst status nobody isSecond assigned holder younger all =>
      have newest (e' : Uuid) (row' : Stored EntryData) (live : LiveEntry t a e' row') :
          e' = e₁ ∨ row'.createdAt.micros < row₁.createdAt.micros := by
        rcases all e' row' live with rfl | same
        · obtain rfl : row' = row₀ := Option.some.inj (live.1.symm.trans isFirst.1)
          exact Or.inr younger
        · exact Or.inl same
      rw [current?_eq_some isSecond newest]
      exact ⟨assigned, holder⟩
  | archived first => cases isLive

/-- The store says of every asset whether nobody has it. -/
theorem isAvailable_serves (refines : Refines t m) (a : Uuid) :
    (Assets.isAvailable a).Ensures serving { committed := t, opened := none }
      (fun available s => available = ((m.assets.lookup a).bind Phase.holder?).isNone ∧
        s = { committed := t, opened := none })
      fun _ _ => False := by
  simp only [Assets.isAvailable, Ledger.isAvailable, fetchOne_eq_single, ensures_bind, ensures_stored, ensures_pure]
  refine serves_outside (fun _ => rfl) (fun new flag _ reads => ⟨?_, rfl⟩) fun new e _ reads => by cases reads
  rw [Tables.first_isAssigned] at reads
  obtain rfl := Except.ok.inj reads
  rw [Bool.not_not, refines.isEmpty_assignments]

/-- The look-up of an asset finds what the machine shows of it. -/
theorem find_serves (refines : Refines t m) (a : Uuid) :
    (Assets.find a).Ensures serving { committed := t, opened := none }
      (fun asset s => (∃ phase, m.assets.lookup a = some phase ∧ phase.isLive = true ∧ asset.id = a ∧
        asset.status = phase.shown ∧ asset.assignedTo = phase.holder?) ∧ s = { committed := t, opened := none })
      fun e s => ((m.assets.lookup a).any Phase.isLive = false ∧ e = Assets.assetNotFound a) ∧
        s = { committed := t, opened := none } := by
  have assetRead := refines.live_asset a
  have read (new : Supply) : Reply.first? Asset.ofRow (t.answer new (.findAsset a)) =
      .ok ((t.assets.live? a).map fun asset =>
        Tables.readAsset a asset (new.model asset.data.modelId) (t.current? a)) := Tables.first?_findAsset t new a
  simp only [Assets.find, Assets.lookUp, fetchOptional_eq_single, ensures_bind, ensures_stored]
  refine serves_outside (fun _ => rfl) (fun new found _ reads => ?_) fun new e _ reads => ?_
  · rw [read] at reads
    obtain rfl := Except.ok.inj reads
    cases live : t.assets.live? a with
    | none => exact ⟨⟨by simp [← assetRead, live], rfl⟩, rfl⟩
    | some row =>
      rw [live, Option.isSome_some] at assetRead
      obtain ⟨phase, found, isLive⟩ := (Option.any_eq_true _ _).1 assetRead.symm
      obtain ⟨status, holder⟩ := refines.current_shown found isLive
      exact ⟨⟨phase, found, isLive, rfl, status, holder⟩, rfl⟩
  · rw [read] at reads
    cases reads

/-- The number of assets that a user holds is told. -/
theorem activeAssignments_serves (refines : Refines t m) (u : Uuid) :
    (Users.activeAssignments u).Ensures serving { committed := t, opened := none }
      (fun count s => count.toInt = (m.holdings u).length ∧ s = { committed := t, opened := none })
      fun _ _ => False := by
  simp only [Users.activeAssignments, Ledger.countAssignments, fetchOne_eq_single, ensures_stored]
  refine serves_outside (fun _ => rfl) (fun new count succeeds reads => ⟨?_, rfl⟩) fun new e succeeds reads => ?_
  · have fits := Tables.fits_of_countReply succeeds
    rw [Tables.answer, Tables.first_countReply fits] at reads
    obtain rfl := Except.ok.inj reads
    rw [Tables.toInt_count fits, refines.length_assignments]
  · rw [Tables.answer, Tables.first_countReply (Tables.fits_of_countReply succeeds)] at reads
    cases reads

theorem shows (refines : Refines t m) : m.Shows { committed := t, opened := none } where
  idle := rfl
  available a new supplied := by
    rcases (refines.isAvailable_serves a).serve supplied with ⟨available, result, rfl, same⟩ | ⟨_, _, impossible⟩
    · exact Prod.ext result same
    · exact impossible.elim
  found a new supplied := by
    rcases (refines.find_serves a).serve supplied with
      ⟨asset, result, ⟨phase, found, isLive, shown⟩, same⟩ | ⟨e, result, ⟨absent, rfl⟩, same⟩
    · exact Or.inl ⟨phase, asset, found, isLive, Prod.ext result same, shown⟩
    · exact Or.inr ⟨absent, Prod.ext result same⟩
  counted u new supplied := by
    rcases (refines.activeAssignments_serves u).serve supplied with ⟨count, result, counted, same⟩ | ⟨_, _, impossible⟩
    · exact ⟨count, Prod.ext result same, counted⟩
    · exact impossible.elim

end Refines

/-- Calls one after another, each with the supplies of its messages. -/
abbrev History := List (Mutation × (Nat → Supply))

/-- Every call of a history is one of the lifecycle, its supplies suit, and no message of it fails. -/
def Served : Session → History → Prop
  | _, [] => True
  | s, (call, new) :: rest =>
    InLifecycle call ∧ call.operation.run.Supplied new s ∧ Served (call.operation.run.serve new s).2 rest

instance decidableServed : (s : Session) → (history : History) → Decidable (Served s history)
  | _, [] => isTrue trivial
  | s, (call, new) :: rest =>
    have := decidableServed (call.operation.run.serve new s).2 rest
    inferInstanceAs (Decidable (_ ∧ _ ∧ _))

/-- Before and after each call the store shows what the machine does, and each call is answered as by the machine. -/
def Machine.Follows : Machine → Session → History → Prop
  | m, s, [] => m.Shows s
  | m, s, (call, new) :: rest =>
    m.Shows s ∧ ∃ m', m.Answers call (call.operation.run.serve new s).1 m' ∧
      m'.Follows (call.operation.run.serve new s).2 rest

/-- From refining states the calls of a history are answered alike, by induction on the history: each call leaves
refining states behind. -/
theorem Refines.follows {history : History} {t : Tables} {m : Machine} (refines : Refines t m)
    (served : Served { committed := t, opened := none } history) :
    m.Follows { committed := t, opened := none } history := by
  induction history generalizing t m with
  | nil => exact refines.shows
  | cons head rest ih =>
    obtain ⟨call, new⟩ := head
    obtain ⟨lifecycle, supplied, served⟩ := served
    have ended : (call.operation.run.serve new { committed := t, opened := none }).2.opened = none ∧
        m.Done call (call.operation.run.serve new { committed := t, opened := none }).1
          (call.operation.run.serve new { committed := t, opened := none }).2.committed := by
      rcases (refines.call_serves lifecycle).serve supplied with ⟨a, result, ended⟩ | ⟨e, result, ended⟩
      · rwa [result]
      · rwa [result]
    obtain ⟨idle, m', answers, refines'⟩ := ended
    refine ⟨refines.shows, m', answers, ?_⟩
    rw [Session.eq_of_idle idle] at served ⊢
    exact ih refines' served

/-- Some users, and no asset yet. -/
def Machine.initial (users : Table Unit) : Machine where
  assets := ∅
  live u := (users.live? u).isSome

theorem refines_initial (users : Table Unit) : Refines { users } (Machine.initial users) where
  unknown a _ := ⟨AList.notMem_empty a, fun e row live => by cases live.1⟩
  known a phase found := by cases found
  users _ := rfl

/-- Calls on a store that has users but no assets yet, one after another and without failures, do what they do to the
machine. -/
theorem lifecycle_refined (users : Table Unit) {history : History}
    (served : Served { committed := { users }, opened := none } history) :
    (Machine.initial users).Follows { committed := { users }, opened := none } history :=
  (refines_initial users).follows served

/-- Two users who are live. -/
def twoUsers : Table Unit :=
  (AList.singleton (.ofNat 2) { data := (), createdAt := ⟨0⟩ }).insert (.ofNat 3) { data := (), createdAt := ⟨0⟩ }

/-- A mouse is registered, with no status asked for. -/
def mouse : CreateAsset where
  model := { name := "M100", assetType := "mouse", brand := { name := "Acme" } }
  serialNo := "SN-1"
  ownedBy := .client
  purchasedDate := some ⟨2025, 6, 30, by decide⟩
  warrantyStart := none
  warrantyEnd := none
  specs := .object [("type", .text "optical"), ("dpi", .whole 1600), ("number_of_buttons", .whole 3)]
  status := none

/-- What the store adds during the call of the given number. The first messages of a registration are answered with a
brand, a model and the identifier of the attributes. -/
def mouseSupply (call message : Nat) : Supply where
  assetId := .ofNat 7
  entryId := .ofNat (20 + call)
  now := ⟨call⟩
  model _ := { modelName := "M100", assetType := .mouse, brandId := .ofNat 9, brandName := "Acme" }
  elsewhere := match message with
    | 1 => .rows [[("id", .uuid (.ofNat 9)), ("name", .text "Acme")]]
    | 2 => .rows [[("id", .uuid (.ofNat 5)), ("name", .text "M100"), ("asset_type", .text "mouse"),
        ("brand_id", .uuid (.ofNat 9))]]
    | 3 => .rows [[("id", .uuid (.ofNat 6))]]
    | _ => .affected 0

/-- A mouse is registered, handed out, taken back and archived; its holder can be deleted only when it is back. -/
def mouseHistory : History :=
  [(.createAsset { userId := .ofNat 2, role := .admin } mouse, mouseSupply 1),
    (.assignAsset { assetId := .ofNat 7, userId := .ofNat 3 }, mouseSupply 2),
    (.deleteUser { userId := .ofNat 2, role := .admin } (.ofNat 3), mouseSupply 3),
    (.retrieveAsset (.ofNat 7), mouseSupply 4),
    (.deleteUser { userId := .ofNat 2, role := .admin } (.ofNat 3), mouseSupply 5),
    (.archiveAsset { userId := .ofNat 2, role := .admin } (.ofNat 7), mouseSupply 6)]

theorem mouse_refined :
    ((Assets.create { userId := .ofNat 2, role := .admin } mouse).run.serve (mouseSupply 1)
      { committed := { users := twoUsers }, opened := none }).1.toOption = some (.ofNat 7) ∧
    Served { committed := { users := twoUsers }, opened := none } mouseHistory ∧
      (Machine.initial twoUsers).Follows { committed := { users := twoUsers }, opened := none } mouseHistory := by
  have served : Served { committed := { users := twoUsers }, opened := none } mouseHistory := by decide +kernel
  exact ⟨by decide +kernel, served, lifecycle_refined twoUsers served⟩

end AssetRegistry.Service
