import AssetRegistry.Proofs.Serving

namespace AssetRegistry.Service

open Store Assets

/-- The phases of an asset, each with the status it was registered with. -/
inductive Phase where
  | free (first : AssetStatus)
  | held (first : AssetStatus) (holder : Uuid)
  | archived (first : AssetStatus)
  deriving DecidableEq

namespace Phase

/-- The status that the asset was registered with. -/
def first : Phase → AssetStatus
  | .free first | .held first _ | .archived first => first

/-- The user who has the asset. -/
def holder? : Phase → Option Uuid
  | .held _ holder => some holder
  | .free _ | .archived _ => none

/-- The asset has not been archived. -/
def isLive : Phase → Bool
  | .free _ | .held _ _ => true
  | .archived _ => false

/-- The status that is told of the asset. -/
def shown : Phase → AssetStatus
  | .held _ _ => .assigned
  | .free first | .archived first => first

end Phase

/-- The assets ever registered, and which users are live. -/
structure Machine where
  assets : AList fun _ : Uuid => Phase
  live : Uuid → Bool

namespace Machine

/-- The machine with one asset in another phase. -/
def put (m : Machine) (id : Uuid) (phase : Phase) : Machine := { m with assets := m.assets.insert id phase }

/-- The assets that a user has. -/
def holdings (m : Machine) (userId : Uuid) : List Uuid :=
  (m.assets.entries.filter fun e => e.2.holder? = some userId).map (·.1)

/-- An asset that is live and free goes to a user who is live. -/
def assign (m : Machine) (req : AssignAsset) : Except ServiceError Unit × Machine :=
  match m.assets.lookup req.assetId with
  | some (.free first) =>
    if m.live req.userId then (.ok (), m.put req.assetId (.held first req.userId))
    else (.error (userNotFound req.userId), m)
  | some (.held _ _) =>
    if m.live req.userId then (.error (.conflict "asset is not available for assignment"), m)
    else (.error (userNotFound req.userId), m)
  | some (.archived _) | none => (.error (assetNotFound req.assetId), m)

/-- An asset that is held comes back. -/
def retrieve (m : Machine) (id : Uuid) : Except ServiceError Unit × Machine :=
  match m.assets.lookup id with
  | some (.held first _) => (.ok (), m.put id (.free first))
  | some (.free _) => (.error (.invalidState "asset has no active assignment"), m)
  | some (.archived _) | none => (.error (assetNotFound id), m)

/-- An asset that is live and free is archived for good. -/
def archive (m : Machine) (id : Uuid) : Except ServiceError Unit × Machine :=
  match m.assets.lookup id with
  | some (.free first) => (.ok (), m.put id (.archived first))
  | some (.held _ _) => (.error (.invalidState "asset is assigned; retrieve it before archiving"), m)
  | some (.archived _) | none => (.error (assetNotFound id), m)

/-- A user who holds nothing is archived, though never by the user in person. -/
def delete (m : Machine) (actor : Actor) (id : Uuid) : Except ServiceError Unit × Machine :=
  if id = actor.userId then (.error (.forbidden "users cannot delete themselves"), m)
  else if m.live id then
    if m.holdings id = [] then (.ok (), { m with live := Function.update m.live id false })
    else
      (.error (.invalidState ("user still has " ++ Text.ofInt (m.holdings id).length ++
        " assigned asset(s); retrieve them first")), m)
  else (.error (userNotFound id), m)

/-- The ledger row that hands out an asset. -/
def Hands (req : AssignAsset) (entry : LedgerEntry) : Prop :=
  entry.assetId = req.assetId ∧ entry.status = .assigned ∧ entry.assignedTo = some req.userId ∧ entry.archivedAt = none

/-- How the machine answers a call. What is registered depends on the request alone, whether it is does not. -/
def Answers (m : Machine) : (call : Mutation) → Except ServiceError call.Result → Machine → Prop
  | .createAsset _ req, .ok id, m' =>
    id ∉ m.assets ∧ req.status ≠ some .assigned ∧ m' = m.put id (.free (req.status.getD .available))
  | .createAsset _ _, .error _, m' => m' = m
  | .assignAsset req, .ok entry, m' => m.assign req = (.ok (), m') ∧ Hands req entry
  | .assignAsset req, .error e, m' => m.assign req = (.error e, m')
  | .retrieveAsset id, result, m' => m.retrieve id = (result, m')
  | .archiveAsset _ id, result, m' => m.archive id = (result, m')
  | .deleteUser actor id, result, m' => m.delete actor id = (result, m')
  | .updateAsset _ _ _, _, _ | .createUser _ _ _, _, _ | .updateUser _ _ _ _, _, _ => False

end Machine

/-- The row is a live one of the asset in the ledger. -/
def LiveEntry (t : Tables) (a e : Uuid) (row : Stored EntryData) : Prop :=
  t.entries.lookup e = some row ∧ row.live = true ∧ row.data.assetId = a

/-- The live ledger rows of an asset: the first one, and a younger one that assigns it if it is held. -/
inductive Ledgered (t : Tables) (a : Uuid) (first : AssetStatus) : Option Uuid → Prop
  | only {e : Uuid} {row : Stored EntryData} : LiveEntry t a e row → row.data.status = first →
      row.data.assignedTo = none → (∀ e' row', LiveEntry t a e' row' → e' = e) → Ledgered t a first none
  | both {e e₁ u : Uuid} {row row₁ : Stored EntryData} : LiveEntry t a e row → row.data.status = first →
      row.data.assignedTo = none → LiveEntry t a e₁ row₁ → row₁.data.status = .assigned →
      row₁.data.assignedTo = some u → row.createdAt.micros < row₁.createdAt.micros →
      (∀ e' row', LiveEntry t a e' row' → e' = e ∨ e' = e₁) → Ledgered t a first (some u)

/-- The tables hold what the machine does. -/
structure Refines (t : Tables) (m : Machine) : Prop where
  unknown : ∀ a, m.assets.lookup a = none → a ∉ t.assets ∧ ∀ e row, ¬LiveEntry t a e row
  known : ∀ a phase, m.assets.lookup a = some phase →
    a ∈ t.assets ∧ (t.assets.live? a).isSome = phase.isLive ∧ phase.first ≠ .assigned ∧
      Ledgered t a phase.first phase.holder?
  users : ∀ u, (t.users.live? u).isSome = m.live u

theorem Ledgered.congr {t t' : Tables} {a : Uuid} {first : AssetStatus} {holder : Option Uuid}
    (same : ∀ e row, LiveEntry t' a e row ↔ LiveEntry t a e row) (ledgered : Ledgered t a first holder) :
    Ledgered t' a first holder := by
  cases ledgered with
  | only isFirst status nobody all =>
    exact .only ((same _ _).2 isFirst) status nobody fun e' row' live => all e' row' ((same _ _).1 live)
  | both isFirst status nobody isSecond assigned holder younger all =>
    exact .both ((same _ _).2 isFirst) status nobody ((same _ _).2 isSecond) assigned holder younger
      fun e' row' live => all e' row' ((same _ _).1 live)

theorem assigns_iff {t : Tables} {e : Uuid} {d : EntryData} :
    t.Assigns e d ↔ d.status = .assigned ∧ ∃ row, LiveEntry t d.assetId e row ∧ row.data = d := by
  refine and_congr_right fun _ => exists_congr fun row => ?_
  constructor
  · rintro ⟨found, live, rfl⟩
    exact ⟨⟨found, live, rfl⟩, rfl⟩
  · rintro ⟨⟨found, live, _⟩, same⟩
    exact ⟨found, live, same⟩

theorem Ledgered.unassigned {t : Tables} {a : Uuid} {first : AssetStatus} (ledgered : Ledgered t a first none)
    (notAssigned : first ≠ .assigned) {e : Uuid} {d : EntryData} (assigns : t.Assigns e d) : d.assetId ≠ a := by
  rintro rfl
  obtain ⟨assigned, row, live, rfl⟩ := assigns_iff.1 assigns
  cases ledgered with
  | @only e₀ row₀ isFirst status _ all =>
    obtain rfl := all e row live
    obtain rfl : row = row₀ := Option.some.inj (live.1.symm.trans isFirst.1)
    exact notAssigned (status ▸ assigned)

/-- One row alone assigns an asset to its holder. -/
theorem Ledgered.assigned {t : Tables} {a u : Uuid} {first : AssetStatus} (ledgered : Ledgered t a first (some u))
    (notAssigned : first ≠ .assigned) :
    ∃ e, t.Assigns e { assetId := a, status := .assigned, assignedTo := some u } ∧
      ∀ e' d, t.Assigns e' d → d.assetId = a → e' = e ∧ d.assignedTo = some u := by
  cases ledgered with
  | @both e₀ e₁ _ row₀ row₁ isFirst status _ isSecond assigned holder _ all =>
    refine ⟨e₁, assigns_iff.2 ⟨rfl, row₁, isSecond, ?_⟩, ?_⟩
    · rw [← isSecond.2.2, ← assigned, ← holder]
    · rintro e' d assigns rfl
      obtain ⟨assigned', row, live, rfl⟩ := assigns_iff.1 assigns
      rcases all e' row live with rfl | rfl
      · obtain rfl : row = row₀ := Option.some.inj (live.1.symm.trans isFirst.1)
        exact absurd (status ▸ assigned') notAssigned
      · obtain rfl : row = row₁ := Option.some.inj (live.1.symm.trans isSecond.1)
        exact ⟨rfl, holder⟩

namespace Refines
variable {t : Tables} {m : Machine} {a u e : Uuid} {d : EntryData}

theorem notMem (refines : Refines t m) (absent : a ∉ t.assets) : a ∉ m.assets := by
  intro member
  obtain ⟨phase, found⟩ := Option.isSome_iff_exists.1 (AList.lookup_isSome.2 member)
  exact absent (refines.known a phase found).1

/-- Whatever a row assigns is held by the user whom the row names. -/
theorem held_of_assigns (refines : Refines t m) (assigns : t.Assigns e d) :
    ∃ phase u, m.assets.lookup d.assetId = some phase ∧ phase.holder? = some u ∧ d.assignedTo = some u := by
  cases found : m.assets.lookup d.assetId with
  | none =>
    obtain ⟨_, row, live, _⟩ := assigns_iff.1 assigns
    exact absurd live ((refines.unknown _ found).2 e row)
  | some phase =>
    obtain ⟨_, _, notAssigned, ledgered⟩ := refines.known _ phase found
    cases holder : phase.holder? with
    | none =>
      rw [holder] at ledgered
      exact absurd rfl (ledgered.unassigned notAssigned assigns)
    | some u =>
      rw [holder] at ledgered
      obtain ⟨_, _, all⟩ := ledgered.assigned notAssigned
      exact ⟨phase, u, rfl, holder, (all e d assigns rfl).2⟩

/-- Whatever is held is assigned by one row, which names the holder. -/
theorem assigned_of_held (refines : Refines t m) {phase : Phase} (found : m.assets.lookup a = some phase)
    (holder : phase.holder? = some u) :
    ∃ e, t.Assigns e { assetId := a, status := .assigned, assignedTo := some u } ∧
      ∀ e' d, t.Assigns e' d → d.assetId = a → e' = e := by
  obtain ⟨_, _, notAssigned, ledgered⟩ := refines.known a phase found
  rw [holder] at ledgered
  obtain ⟨e, assigns, all⟩ := ledgered.assigned notAssigned
  exact ⟨e, assigns, fun e' d assigns' same => (all e' d assigns' same).1⟩

/-- Two rows do not assign one asset. -/
theorem assigns_once (refines : Refines t m) {e' : Uuid} {d' : EntryData} (assigns : t.Assigns e d)
    (assigns' : t.Assigns e' d') (same : d.assetId = d'.assetId) : (e, d) = (e', d') := by
  obtain ⟨phase, u, found, holder, _⟩ := refines.held_of_assigns assigns
  obtain ⟨e₀, _, all⟩ := refines.assigned_of_held found holder
  obtain rfl := all e d assigns rfl
  obtain rfl := all e' d' assigns' same.symm
  rw [assigns.unique assigns']

/-- The store tells an asset free exactly if the machine has nobody hold it. -/
theorem isEmpty_assignments (refines : Refines t m) (a : Uuid) :
    (t.assignments (·.assetId = a)).isEmpty = ((m.assets.lookup a).bind Phase.holder?).isNone := by
  rw [Bool.eq_iff_iff, List.isEmpty_iff, Tables.assignments_eq_nil, Option.isNone_iff_eq_none,
    Option.bind_eq_none_iff]
  constructor
  · intro unwanted phase found
    cases holder : phase.holder? with
    | none => rfl
    | some u =>
      obtain ⟨e, assigns, _⟩ := refines.assigned_of_held found holder
      simpa using unwanted e _ assigns
  · intro nobody e d assigns
    obtain ⟨phase, u, found, holder, _⟩ := refines.held_of_assigns assigns
    refine decide_eq_false ?_
    rintro rfl
    simp [nobody phase found] at holder

end Refines

theorem Machine.mem_holdings {m : Machine} {a u : Uuid} :
    a ∈ m.holdings u ↔ ∃ phase, m.assets.lookup a = some phase ∧ phase.holder? = some u := by
  simp only [holdings, List.mem_map, List.mem_filter, decide_eq_true_eq]
  constructor
  · rintro ⟨⟨a, phase⟩, ⟨member, holder⟩, rfl⟩
    exact ⟨phase, AList.mem_lookup_iff.2 member, holder⟩
  · rintro ⟨phase, found, holder⟩
    exact ⟨⟨a, phase⟩, ⟨AList.mem_lookup_iff.1 found, holder⟩, rfl⟩

theorem Machine.nodup_holdings (m : Machine) (u : Uuid) : (m.holdings u).Nodup :=
  (List.filter_sublist.map _).nodup m.assets.keys_nodup

theorem nodup_assignments (t : Tables) (wanted : EntryData → Bool) : (t.assignments wanted).Nodup := by
  refine List.Nodup.of_map (·.1) ?_
  rw [Tables.assignments, List.map_map]
  exact (List.filter_sublist.map _).nodup t.entries.keys_nodup

/-- The store counts as many assignments of a user as the machine. -/
theorem Refines.length_assignments {t : Tables} {m : Machine} (refines : Refines t m) (u : Uuid) :
    (t.assignments (·.assignedTo = some u)).length = (m.holdings u).length := by
  -- Both lists name each asset once, so that it is enough to have the same assets in them.
  rw [← List.length_map (·.2.assetId)]
  refine List.Perm.length_eq ((List.perm_ext_iff_of_nodup ?_ (m.nodup_holdings u)).2 fun a => ?_)
  · refine (nodup_assignments t _).map_on ?_
    rintro ⟨e, d⟩ member ⟨e', d'⟩ member' same
    exact refines.assigns_once (Tables.mem_assignments.1 member).1 (Tables.mem_assignments.1 member').1 same
  · rw [Machine.mem_holdings, List.mem_map]
    constructor
    · rintro ⟨⟨e, d⟩, member, rfl⟩
      obtain ⟨assigns, wanted⟩ := Tables.mem_assignments.1 member
      obtain ⟨phase, u', found, holder, held⟩ := refines.held_of_assigns assigns
      refine ⟨phase, found, holder.trans ?_⟩
      rw [← held]
      simpa using wanted
    · rintro ⟨phase, found, holder⟩
      obtain ⟨e, assigns, _⟩ := refines.assigned_of_held found holder
      exact ⟨(e, _), Tables.mem_assignments.2 ⟨assigns, by simp⟩, rfl⟩

/-- The newest live row of an asset is the one that counts. -/
theorem current?_eq_some {t : Tables} {a e : Uuid} {row : Stored EntryData} (live : LiveEntry t a e row)
    (newest : ∀ e' row', LiveEntry t a e' row' → e' = e ∨ row'.createdAt.micros < row.createdAt.micros) :
    t.current? a = some row := by
  have mem_iff {row' : Stored EntryData} :
      row' ∈ (t.entries.entries.map (·.2)).filter (fun row => row.live && row.data.assetId = a) ↔
        ∃ e', LiveEntry t a e' row' := by
    simp only [List.mem_filter, List.mem_map, Bool.and_eq_true, decide_eq_true_eq, LiveEntry]
    constructor
    · rintro ⟨⟨⟨e', row'⟩, member, rfl⟩, isLive⟩
      exact ⟨e', AList.mem_lookup_iff.2 member, isLive⟩
    · rintro ⟨e', found, isLive⟩
      exact ⟨⟨⟨e', row'⟩, AList.mem_lookup_iff.1 found, rfl⟩, isLive⟩
  have member := mem_iff.2 ⟨e, live⟩
  obtain ⟨greatest, found⟩ := Option.isSome_iff_exists.1 (List.isSome_maxOn?_of_mem (f := (·.createdAt.micros)) member)
  have most := List.le_apply_get_maxOn?_of_mem (f := (·.createdAt.micros)) member
  simp only [found, Option.get_some] at most
  refine found.trans (congrArg some ?_)
  obtain ⟨e', live'⟩ := mem_iff.1 (List.maxOn?_mem found)
  rcases newest e' greatest live' with rfl | younger
  · exact Option.some.inj (live'.1.symm.trans live.1)
  · omega

theorem Machine.lookup_put (m : Machine) (a b : Uuid) (phase : Phase) :
    (m.put a phase).assets.lookup b = if b = a then some phase else m.assets.lookup b := by
  by_cases same : b = a
  · subst same
    rw [Machine.put, AList.lookup_insert, if_pos rfl]
  · rw [Machine.put, AList.lookup_insert_ne same, if_neg same]

/-- A change of rows that concern one asset alone is a change of that asset's phase. -/
theorem Refines.put {t t' : Tables} {m : Machine} {a : Uuid} {phase : Phase} (refines : Refines t m)
    (assets : ∀ b, b ≠ a → t'.assets.lookup b = t.assets.lookup b)
    (entries : ∀ b e row, b ≠ a → (LiveEntry t' b e row ↔ LiveEntry t b e row))
    (users : ∀ u, t'.users.lookup u = t.users.lookup u) (member : a ∈ t'.assets)
    (isLive : (t'.assets.live? a).isSome = phase.isLive) (notAssigned : phase.first ≠ .assigned)
    (ledgered : Ledgered t' a phase.first phase.holder?) : Refines t' (m.put a phase) where
  unknown b absent := by
    rw [Machine.lookup_put] at absent
    split at absent
    · cases absent
    · next differ =>
      obtain ⟨noAsset, noEntry⟩ := refines.unknown b absent
      rw [← AList.lookup_eq_none, assets b differ, AList.lookup_eq_none]
      exact ⟨noAsset, fun e row live => noEntry e row ((entries b e row differ).1 live)⟩
  known b phase' found := by
    rw [Machine.lookup_put] at found
    split at found
    · next same =>
      subst same
      obtain rfl := Option.some.inj found
      exact ⟨member, isLive, notAssigned, ledgered⟩
    · next differ =>
      obtain ⟨member, isLive, notAssigned, ledgered⟩ := refines.known b phase' found
      rw [← AList.lookup_isSome, Table.live?, assets b differ, AList.lookup_isSome]
      exact ⟨member, isLive, notAssigned, ledgered.congr fun e row => entries b e row differ⟩
  users u := by
    rw [Table.live?, users]
    exact refines.users u

/-- A new row is live from then on, and all others stay as they were. -/
theorem liveEntry_insert {t own : Tables} {e₁ : Uuid} {row₁ : Stored EntryData}
    (written : own.entries = .singleton e₁ row₁) (isNew : e₁ ∉ t.entries) (live : row₁.live = true) {a e : Uuid}
    {row : Stored EntryData} :
    LiveEntry (own ∪ t) a e row ↔ (e = e₁ ∧ row = row₁ ∧ a = row₁.data.assetId) ∨ LiveEntry t a e row := by
  have absent := AList.lookup_eq_none.2 isNew
  unfold LiveEntry
  rw [Tables.union_entries, Table.lookup_union, written, Table.lookup_singleton]
  by_cases same : e = e₁
  · subst same
    simp only [if_true, Option.some_or, Option.some.injEq, absent, true_and, reduceCtorEq, false_and, or_false]
    constructor
    · rintro ⟨rfl, _, rfl⟩
      exact ⟨rfl, rfl⟩
    · rintro ⟨rfl, rfl⟩
      exact ⟨rfl, live, rfl⟩
  · simp [same]

/-- To archive a row takes it, and no other, out of the live ones. -/
theorem liveEntry_stamped {t own : Tables} {e₁ : Uuid} {now : Instant} (written : own.entries = t.entries.stamped e₁ now)
    {a e : Uuid} {row : Stored EntryData} : LiveEntry (own ∪ t) a e row ↔ e ≠ e₁ ∧ LiveEntry t a e row := by
  unfold LiveEntry
  rw [Tables.union_entries, Table.lookup_union, written, Table.lookup_stamped]
  by_cases same : e = e₁
  · subst same
    simp only [if_true, ne_eq, not_true_eq_false, false_and, iff_false, not_and]
    intro found live
    cases isLive : t.entries.live? e with
    | some old =>
      rw [isLive] at found
      obtain rfl := Option.some.inj found
      cases live
    | none =>
      rw [isLive, Option.map_none, Option.none_or] at found
      rw [Table.live?_eq_some.2 ⟨found, live⟩] at isLive
      cases isLive
  · simp [same]

theorem liveEntry_same {t own : Tables} (written : own.entries = ∅) {a e : Uuid} {row : Stored EntryData} :
    LiveEntry (own ∪ t) a e row ↔ LiveEntry t a e row := by
  simp [LiveEntry, written]

namespace Refines
variable {t : Tables} {m : Machine} {a u : Uuid} {first : AssetStatus}

/-- An assignment is inserted: the asset is held. Its row is the youngest, so it is the one that counts. -/
theorem handOut (refines : Refines t m) (free : m.assets.lookup a = some (.free first)) {new : Supply}
    (isNew : new.entryId ∉ t.entries)
    (youngest : ∀ e ∈ t.entries.entries, e.2.createdAt.micros < new.now.micros) :
    Refines (t.written new (.insertAssignment a u) ∪ t) (m.put a (.held first u)) := by
  obtain ⟨member, isLive, notAssigned, ledgered⟩ := refines.known a _ free
  have entries {b e : Uuid} {row : Stored EntryData} :
      LiveEntry (t.written new (.insertAssignment a u) ∪ t) b e row ↔
        (e = new.entryId ∧ row = Tables.newEntry new a .assigned (some u) ∧ b = a) ∨ LiveEntry t b e row :=
    liveEntry_insert rfl isNew rfl
  refine refines.put (fun _ _ => by simp [Tables.written]) ?_ (fun _ => by simp [Tables.written])
    (AList.mem_union.2 (Or.inr member)) (by simpa [Tables.written, Phase.isLive] using isLive) notAssigned ?_
  · intro b e row differ
    simp [entries, differ]
  · cases ledgered with
    | only isFirst status nobody all =>
      refine .both (entries.2 (Or.inr isFirst)) status nobody (entries.2 (Or.inl ⟨rfl, rfl, rfl⟩)) rfl rfl
        (youngest _ (AList.mem_lookup_iff.1 isFirst.1)) fun e' row' live => ?_
      rcases entries.1 live with ⟨same, _⟩ | old
      · exact Or.inr same
      · exact Or.inl (all e' row' old)

/-- The row that assigns the asset is archived: the asset is free again, with the status it was registered with. -/
theorem takeBack (refines : Refines t m) (held : m.assets.lookup a = some (.held first u)) {e : Uuid} {d : EntryData}
    (assigns : t.Assigns e d) (about : d.assetId = a) (new : Supply) :
    Refines (t.written new (.archiveEntry e) ∪ t) (m.put a (.free first)) := by
  obtain ⟨member, isLive, notAssigned, ledgered⟩ := refines.known a _ held
  obtain ⟨assigned, row, live, rfl⟩ := assigns_iff.1 assigns
  have entries {b e' : Uuid} {row' : Stored EntryData} :
      LiveEntry (t.written new (.archiveEntry e) ∪ t) b e' row' ↔ e' ≠ e ∧ LiveEntry t b e' row' :=
    liveEntry_stamped rfl
  refine refines.put (fun _ _ => by simp [Tables.written]) ?_ (fun _ => by simp [Tables.written])
    (AList.mem_union.2 (Or.inr member)) (by simpa [Tables.written, Phase.isLive] using isLive) notAssigned ?_
  · intro b e' row' differ
    rw [entries, and_iff_right_of_imp]
    rintro other rfl
    exact differ (other.2.2.symm.trans ((Option.some.inj (other.1.symm.trans live.1)) ▸ about))
  · rw [about] at live
    cases ledgered with
    | @both e₀ e₁ _ row₀ row₁ isFirst status nobody isSecond _ _ _ all =>
      have notFirst : e ≠ e₀ := by
        rintro rfl
        obtain rfl : row = row₀ := Option.some.inj (live.1.symm.trans isFirst.1)
        exact notAssigned (status.symm.trans assigned)
      have isSecond : e = e₁ := (all e row live).resolve_left notFirst
      refine .only (entries.2 ⟨notFirst.symm, isFirst⟩) status nobody fun e' row' live' => ?_
      obtain ⟨differ, old⟩ := entries.1 live'
      exact (all e' row' old).resolve_right (isSecond ▸ differ)

/-- The asset is stamped as archived; the ledger stays as it was. -/
theorem withdraw (refines : Refines t m) (free : m.assets.lookup a = some (.free first)) (new : Supply)
    (archivedBy : Uuid) : Refines (t.written new (.archiveAsset a archivedBy) ∪ t) (m.put a (.archived first)) := by
  obtain ⟨member, isLive, notAssigned, ledgered⟩ := refines.known a _ free
  refine refines.put ?_ ?_ (fun _ => by simp [Tables.written]) (AList.mem_union.2 (Or.inr member)) ?_ notAssigned
    (ledgered.congr fun e row => liveEntry_same rfl)
  · intro b differ
    simp [Tables.written, Table.lookup_stamped, differ]
  · exact fun b e row _ => liveEntry_same rfl
  · simp [Tables.written, Table.live?_stamped, Phase.isLive]

/-- The user is stamped as archived, which changes nothing about the assets. -/
theorem dismiss (refines : Refines t m) (new : Supply) (archivedBy : Uuid) :
    Refines (t.written new (.archiveUser u archivedBy) ∪ t) { m with live := Function.update m.live u false } where
  unknown b absent := by
    obtain ⟨noAsset, noEntry⟩ := refines.unknown b absent
    refine ⟨fun member => ?_, fun e row live => noEntry e row ((liveEntry_same rfl).1 live)⟩
    rcases AList.mem_union.1 member with written | old
    · exact AList.notMem_empty b written
    · exact noAsset old
  known b phase found := by
    obtain ⟨member, isLive, notAssigned, ledgered⟩ := refines.known b phase found
    refine ⟨AList.mem_union.2 (Or.inr member), ?_, notAssigned, ledgered.congr fun e row => liveEntry_same rfl⟩
    simpa [Tables.written] using isLive
  users v := by
    simp only [Tables.written, Tables.union_users, Table.live?_stamped, Function.update_apply]
    split
    · rfl
    · exact refines.users v

/-- A registered asset has one ledger row, which tells its first status. -/
theorem register (refines : Refines t m) {new new' : Supply} (isNew : new.assetId ∉ t.assets)
    (isNew' : new'.entryId ∉ t.entries) {asset : NewAsset} (notAssigned : first ≠ .assigned) {written : Tables}
    (wroteAssets : written.assets = .singleton new.assetId { data := asset, createdAt := new.now })
    (wroteEntries : written.entries = .singleton new'.entryId (Tables.newEntry new' new.assetId first none))
    (wroteUsers : written.users = ∅) : Refines (written ∪ t) (m.put new.assetId (.free first)) := by
  have entries {b e : Uuid} {row : Stored EntryData} :
      LiveEntry (written ∪ t) b e row ↔
        (e = new'.entryId ∧ row = Tables.newEntry new' new.assetId first none ∧ b = new.assetId) ∨ LiveEntry t b e row :=
    liveEntry_insert wroteEntries isNew' rfl
  have unknown := AList.lookup_eq_none.2 (refines.notMem isNew)
  refine refines.put ?_ ?_ ?_ ?_ ?_ notAssigned ?_
  · intro b differ
    simp [wroteAssets, differ]
  · intro b e row differ
    simp [entries, differ]
  · simp [wroteUsers]
  · rw [Tables.union_assets, wroteAssets]
    exact AList.mem_union.2 (Or.inl (Table.mem_singleton.2 rfl))
  · simp [Table.live?, wroteAssets, Stored.live, Phase.isLive]
  · refine .only (entries.2 (Or.inl ⟨rfl, rfl, rfl⟩)) rfl rfl fun e' row' live => ?_
    rcases entries.1 live with ⟨same, _⟩ | old
    · exact same
    · exact absurd old ((refines.unknown _ unknown).2 e' row')

end Refines
end AssetRegistry.Service
