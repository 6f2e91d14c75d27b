import AssetRegistry.Proofs.Invariant

namespace AssetRegistry.Store

/-- Every asset has at most one live row that assigns it, and an asset that has one is live itself. -/
structure Tables.Exclusive (t : Tables) : Prop where
  once : ∀ e e' d d', t.Assigns e d → t.Assigns e' d' → d.assetId = d'.assetId → e = e'
  live : ∀ e d, t.Assigns e d → (t.assets.live? d.assetId).isSome

/-- No archived user holds an asset. -/
def Tables.Guarded (t : Tables) : Prop :=
  ∀ e d u user, t.Assigns e d → d.assignedTo = some u → t.users.lookup u = some user → user.live = true

namespace Tables
variable {t : Tables} {new : Supply} {q : Statement} {e : Uuid} {d : EntryData}

theorem assigns_congr {x y : Tables} (same : x.entries = y.entries) : x.Assigns e d ↔ y.Assigns e d := by
  rw [Assigns, Assigns, same]

theorem not_assigns_stamped {id : Uuid} {now : Instant} :
    ¬({ entries := t.entries.stamped id now } : Tables).Assigns e d := by
  rintro ⟨_, row, found, live, _⟩
  obtain ⟨_, old, _, _, rfl⟩ := Table.lookup_stamped_eq_some.1 found
  cases live

theorem assigns_new {a : Uuid} {status : AssetStatus} {holder : Option Uuid}
    (assigns : ({ entries := .singleton new.entryId (newEntry new a status holder) } : Tables).Assigns e d) :
    status = .assigned ∧ e = new.entryId ∧ d.assetId = a ∧ d.assignedTo = holder := by
  obtain ⟨assigned, row, found, _, rfl⟩ := assigns
  obtain ⟨rfl, rfl⟩ : e = new.entryId ∧ newEntry new a status holder = row := by simpa using found
  exact ⟨assigned, rfl, rfl, rfl⟩

/-- A permitted write assigns nothing new unless it is the one that hands out an asset. -/
theorem assigns_written {known : Set Fact} (permitted : Permits known q)
    (assigns : (t.written new q ∪ t).Assigns e d) :
    t.Assigns e d ∨ ∃ u, q = .insertAssignment d.assetId u ∧ e = new.entryId ∧ d.assignedTo = some u := by
  rcases assigns_union.1 assigns with written | ⟨_, old⟩
  · cases q
    case recordStatus a status => exact absurd (assigns_new written).1 permitted
    case insertAssignment a u =>
      obtain ⟨_, same, rfl, held⟩ := assigns_new written
      exact Or.inr ⟨u, rfl, same, held⟩
    case archiveEntry id => exact (not_assigns_stamped written).elim
    all_goals exact (not_assigns_empty e d ((assigns_congr rfl).1 written)).elim
  · exact Or.inl old

/-- A statement that archives no asset leaves every live asset live. -/
theorem live_asset_written {a : Uuid} (live : (t.assets.live? a).isSome) (others : ∀ by', q ≠ .archiveAsset a by') :
    ((t.written new q ∪ t).assets.live? a).isSome := by
  obtain ⟨row, isLive⟩ := Option.isSome_iff_exists.1 live
  cases q
  case insertAsset asset =>
    by_cases same : a = new.assetId
    · simp [written, Table.live?, same, Stored.live]
    · have found := Table.live?_eq_some.1 isLive
      simp [written, Table.live?, same, found]
  case archiveAsset id by' =>
    have differ : a ≠ id := fun same => others by' (same ▸ rfl)
    have found := Table.live?_eq_some.1 isLive
    simp [written, Table.live?, Table.lookup_stamped, differ, found]
  all_goals
    have found := Table.live?_eq_some.1 isLive
    simp [written, Table.live?, found]

theorem user_written {u : Uuid} {user : Stored Unit} (others : ∀ by', q ≠ .archiveUser u by')
    (found : (t.written new q ∪ t).users.lookup u = some user) : t.users.lookup u = some user := by
  cases q
  case archiveUser id by' =>
    have differ : u ≠ id := fun same => others by' (same ▸ rfl)
    simpa [written, Table.lookup_stamped, differ] using found
  all_goals simpa [written] using found

end Tables

/-- What the protocol permits keeps assignments exclusive, and so does a commit of others. -/
theorem exclusive_kept : Kept Tables.Exclusive where
  alike alike exclusive := by
    refine ⟨fun e e' d d' assigns assigns' => ?_, fun e d assigns => ?_⟩
    · exact exclusive.once e e' d d' (alike.assigns.2 assigns) (alike.assigns.2 assigns')
    · have live := exclusive.live e d (alike.assigns.2 assigns)
      rwa [Table.live?, alike.assets] at live
  write {s i t known} new q isOpen holds permitted fresh exclusive := by
    have elsewhere {a u : Uuid} {e : Uuid} {d : EntryData} (hands : q = .insertAssignment a u)
        (assigns : (t.written ∪ s.committed).Assigns e d) : d.assetId ≠ a := by
      subst hands
      exact (holds _ permitted.1).2.2 e d assigns
    refine ⟨fun e e' d d' assigns assigns' same => ?_, fun e d assigns => ?_⟩
    · rcases Tables.assigns_written permitted assigns with old | ⟨u, hands, isNew, _⟩
      · rcases Tables.assigns_written permitted assigns' with old' | ⟨u', hands', _, _⟩
        · exact exclusive.once e e' d d' old old' same
        · exact absurd same (elsewhere hands' old)
      · rcases Tables.assigns_written permitted assigns' with old' | ⟨u', hands', isNew', _⟩
        · exact absurd same.symm (elsewhere hands old')
        · exact isNew.trans isNew'.symm
    · rcases Tables.assigns_written permitted assigns with old | ⟨u, hands, _, _⟩
      · refine Tables.live_asset_written (exclusive.live e d old) ?_
        rintro actor rfl
        exact (holds _ permitted).2.2 e d old rfl
      · subst hands
        exact Tables.live_asset_written (holds _ permitted.1).2.1 (by simp)
  commit {t t' committed} orderly orderly' apart exclusive exclusive' := by
    -- What an asset is assigned by is seen alike by the transaction that locks it, or by the one that is committed.
    have unlocked {e : Uuid} {d : EntryData} (free : { row := .asset d.assetId, exclusive := true } ∉ t'.locks)
        (assigns : (t'.written ∪ (t.written ∪ committed)).Assigns e d) : (t.written ∪ committed).Assigns e d := by
      rcases Tables.assigns_union.1 assigns with own | ⟨_, other⟩
      · exact absurd (orderly'.asset_locked own) free
      · exact other
    refine ⟨fun e e' d d' assigns assigns' same => ?_, fun e d assigns => ?_⟩
    · by_cases locked : { row := .asset d.assetId, exclusive := true } ∈ t'.locks
      · have seen := (orderly.assigns_view apart locked).1 assigns
        have seen' := (orderly.assigns_view apart (same ▸ locked)).1 assigns'
        exact exclusive'.once e e' d d' seen seen' same
      · exact exclusive.once e e' d d' (unlocked locked assigns) (unlocked (same ▸ locked) assigns') same
    · by_cases locked : { row := .asset d.assetId, exclusive := true } ∈ t'.locks
      · have live := exclusive'.live e d ((orderly.assigns_view apart locked).1 assigns)
        have untouched := AList.lookup_eq_none.2 (orderly.asset_untouched orderly' apart locked)
        simpa [Table.live?, untouched] using live
      · have live := exclusive.live e d (unlocked locked assigns)
        have notWritten : t'.written.assets.lookup d.assetId = none := by
          refine AList.lookup_eq_none.2 fun written' => ?_
          rcases orderly'.assets_locked _ written' with locked' | isNew
          · exact locked locked'
          · rcases AList.mem_union.1 (mem_of_live live) with written | old
            · exact apart.assets _ written written'
            · exact isNew old
        simpa [Table.live?, notWritten] using live

/-- What the protocol permits keeps assignments with live users, and so does a commit of others. -/
theorem guarded_kept : Kept Tables.Guarded where
  alike alike guarded e d u user assigns held found := by
    exact guarded e d u user (alike.assigns.2 assigns) held ((alike.users u).trans found)
  write {s i t known} new q isOpen holds permitted fresh guarded e d u user assigns held found := by
    rcases Tables.assigns_written permitted assigns with old | ⟨u', hands, _, held'⟩
    · refine guarded e d u user old held (Tables.user_written ?_ found)
      rintro actor rfl
      exact (holds _ permitted).2.2 e d old held
    · obtain rfl : u' = u := Option.some.inj (held'.symm.trans held)
      have found' := Tables.user_written (by simp [hands]) found
      subst hands
      obtain ⟨exclusive, locked⟩ := permitted.2
      obtain ⟨row, isLive⟩ := Option.isSome_iff_exists.1 (holds _ locked).2
      obtain ⟨foundRow, live⟩ := Table.live?_eq_some.1 isLive
      obtain rfl : row = user := Option.some.inj (foundRow.symm.trans found')
      exact live
  commit {t t' committed} orderly orderly' apart guarded guarded' e d u user assigns held found := by
    have own (written' : t'.written.Assigns e d) : (t'.written ∪ committed).Assigns e d :=
      Tables.assigns_union.2 (Or.inl written')
    cases writes' : t'.written.users.lookup u with
    | some user' =>
      have seen : (t'.written ∪ committed).users.lookup u = some user := by simpa [writes'] using found
      have locked' := orderly'.users_locked u (AList.lookup_isSome.1 (by simp [writes']))
      rcases Tables.assigns_union.1 assigns with written' | ⟨notOwn, other⟩
      · exact guarded' e d u user (own written') held seen
      · rcases Tables.assigns_union.1 other with written | ⟨_, old⟩
        · obtain ⟨exclusive, locked⟩ := orderly.holders_locked e d u written held
          exact (apart.symm.unlocked locked' locked).elim
        · exact guarded' e d u user (Tables.assigns_union.2 (Or.inr ⟨notOwn, old⟩)) held seen
    | none =>
      have seen : (t.written ∪ committed).users.lookup u = some user := by simpa [writes'] using found
      rcases Tables.assigns_union.1 assigns with written' | ⟨_, other⟩
      · obtain ⟨exclusive, locked'⟩ := orderly'.holders_locked e d u written' held
        have untouched := AList.lookup_eq_none.2 (orderly.user_untouched apart locked')
        refine guarded' e d u user (own written') held ?_
        simpa [writes', untouched] using seen
      · exact guarded e d u user other held seen

namespace System

/-- Where a retrieval sends the update that archives a ledger entry, the entry is live and committed, and no other
transaction has written it. -/
theorem Reachable.archives_one {initial : Tables} {s : System} (start : initial.Exclusive)
    (reachable : Reachable initial s) {i : Nat} {e : Uuid} {next : Reply → Dialogue Unit}
    (sends : s.programs i = .send (.statement (.archiveEntry e)) next) :
    (s.state.committed.entries.live? e).isSome ∧
      (∀ j t, s.state.opened j = some t → e ∉ t.written.entries) ∧
      ∀ reply after, s.state.Reacts i (.statement (.archiveEntry e)) reply after →
        reply.isFailed = true ∨ reply = .affected 1 := by
  obtain ⟨known, invariant⟩ := reachable.invariant exclusive_kept start
  have follows := invariant.follows i
  have sound := invariant.state.sound i
  rw [sends] at follows
  cases knows : known i with
  | none =>
    rw [knows] at follows
    exact follows.1.elim
  | some facts =>
    rw [knows] at follows sound
    obtain ⟨a, assigns⟩ := follows.1
    obtain ⟨t, isOpen, holds⟩ := sound
    obtain ⟨locked, notWritten, d, ⟨assigned, row, found, live, rfl⟩, rfl⟩ := holds _ assigns
    have isLive : s.state.committed.entries.live? e = some row := Table.live?_eq_some.2 ⟨found, live⟩
    refine ⟨by simp [isLive], fun j t' isOpen' written => ?_, fun reply after reacts => ?_⟩
    · by_cases same : j = i
      · subst same
        obtain rfl : t = t' := Option.some.inj (isOpen.symm.trans isOpen')
        exact notWritten written
      · obtain ⟨row', found'⟩ := Option.isSome_iff_exists.1 (AList.lookup_isSome.2 written)
        have orderly' := invariant.state.orderly j t' isOpen'
        have kept := (orderly'.entries_kept e row' row found' found).1
        have locked' := orderly'.entries_locked e row' found' (kept ▸ assigned)
        exact (invariant.state.apart i j t t' same isOpen isOpen').unlocked locked (kept ▸ locked')
    · cases reacts with
      | refuses fault => exact Or.inl rfl
      | takes new admitted =>
        have untouched := AList.lookup_eq_none.2 notWritten
        have seen : (s.state.session i).view.entries.live? e = some row := by
          simp [Session.view, State.session, isOpen, Table.live?, untouched, found, live]
        exact Or.inr (by simp [Session.react, Tables.answer, seen])

/-- Whatever calls are made, and in whatever order their statements are carried out: every asset has at most one live
ledger row with the status `assigned`, no archived asset has one, and each update by which an asset is retrieved archives
exactly one row. -/
theorem Reachable.exclusive {initial : Tables} {s : System} (start : initial.Exclusive)
    (reachable : Reachable initial s) :
    s.state.committed.Exclusive ∧
      ∀ i e next, s.programs i = .send (.statement (.archiveEntry e)) next →
        (s.state.committed.entries.live? e).isSome ∧
          (∀ j t, s.state.opened j = some t → e ∉ t.written.entries) ∧
          ∀ reply after, s.state.Reacts i (.statement (.archiveEntry e)) reply after →
            reply.isFailed = true ∨ reply = .affected 1 := by
  obtain ⟨known, invariant⟩ := reachable.invariant exclusive_kept start
  exact ⟨invariant.state.committed, fun i e next sends => reachable.archives_one start sends⟩

/-- Whatever calls are made, and in whatever order their statements are carried out: no archived user holds an asset. -/
theorem Reachable.guarded {initial : Tables} {s : System} (start : initial.Guarded) (reachable : Reachable initial s) :
    s.state.committed.Guarded := by
  obtain ⟨known, invariant⟩ := reachable.invariant guarded_kept start
  exact invariant.state.committed

/-- What the only caller of all can reach. -/
def Solo (initial : Tables) (i : Nat) (s : System) : Prop :=
  Reachable initial s ∧ ∀ j, j ≠ i → s.state.opened j = none

theorem Solo.call (initial : Tables) (i : Nat) {m : Service.Mutation} (lifecycle : InLifecycle m) :
    Solo initial i { idle initial with programs := Function.update (idle initial).programs i (callDialogue m) } :=
  ⟨.step .idle (.call i m rfl lifecycle), fun _ _ => rfl⟩

/-- With nobody else at work every message is taken at once. -/
theorem Solo.take {initial : Tables} {i : Nat} {s : System} (solo : Solo initial i s) (new : Supply) {m : Message}
    {next : Reply → Dialogue Unit} (sends : s.programs i = .send m next)
    (fresh : ∀ q, m = .statement q → s.state.Fresh new q) :
    Solo initial i
      { state := s.state.put i ((s.state.session i).react new m).2
        programs := Function.update s.programs i (next ((s.state.session i).react new m).1) } := by
  obtain ⟨reachable, alone⟩ := solo
  refine ⟨reachable.step (.exchange i sends (.takes new ?_)), fun j differ => ?_⟩
  · cases m with
    | statement q =>
      refine ⟨fresh q rfl, fun lock _ j t differ isOpen => ?_⟩
      simp [alone j differ] at isOpen
    | begin => trivial
    | commit => trivial
    | rollback => trivial
  · simp [State.put, differ, alone j differ]

/-- One user holds the only asset, another one holds nothing. -/
def oneHeld : Tables where
  assets := .singleton (.ofNat 1)
    { data :=
        { modelId := .ofNat 5, specsId := .ofNat 6, serialNo := "SN-1", ownedBy := .client
          purchasedDate := ⟨2024, 1, 15, by decide⟩, warrantyStart := none, warrantyEnd := none, createdBy := .ofNat 3 }
      createdAt := ⟨0⟩ }
  entries := .singleton (.ofNat 4)
    { data := { assetId := .ofNat 1, status := .assigned, assignedTo := some (.ofNat 2) }, createdAt := ⟨1⟩ }
  users := (AList.singleton (.ofNat 2) { data := (), createdAt := ⟨0⟩ }).insert (.ofNat 3)
    { data := (), createdAt := ⟨0⟩ }

def someSupply : Supply where
  assetId := .ofNat 7
  entryId := .ofNat 8
  now := ⟨2⟩
  model _ := { modelName := "X1", assetType := .laptop, brandId := .ofNat 9, brandName := "Acme" }
  elsewhere := .affected 0

theorem oneHeld_assigns {e : Uuid} {d : EntryData} (assigns : oneHeld.Assigns e d) :
    e = .ofNat 4 ∧ d = { assetId := .ofNat 1, status := .assigned, assignedTo := some (.ofNat 2) } := by
  obtain ⟨_, row, found, _, rfl⟩ := assigns
  obtain ⟨rfl, rfl⟩ : e = .ofNat 4 ∧ _ = row := by simpa [oneHeld] using found
  exact ⟨rfl, rfl⟩

theorem oneHeld_exclusive : oneHeld.Exclusive where
  once e e' d d' assigns assigns' _ := (oneHeld_assigns assigns).1.trans (oneHeld_assigns assigns').1.symm
  live e d assigns := by
    obtain ⟨-, rfl⟩ := oneHeld_assigns assigns
    rfl

theorem oneHeld_guarded : oneHeld.Guarded := by
  intro e d u user assigns held found
  obtain ⟨-, rfl⟩ := oneHeld_assigns assigns
  obtain rfl := Option.some.inj held
  obtain rfl := Option.some.inj found
  rfl

/-- A retrieval gets as far as the row it archives, and archives that one row. -/
theorem retrieval_archives_one :
    oneHeld.Exclusive ∧ ∃ s next, Reachable oneHeld s ∧
      s.programs 0 = .send (.statement (.archiveEntry (.ofNat 4))) next ∧
      ∀ reply after, s.state.Reacts 0 (.statement (.archiveEntry (.ofNat 4))) reply after →
        reply.isFailed = true ∨ reply = .affected 1 := by
  have called := Solo.call oneHeld 0 (show InLifecycle (.retrieveAsset (.ofNat 1)) from trivial)
  have begun := called.take someSupply rfl (by simp)
  have locked := begun.take someSupply rfl (by rintro q ⟨⟩; trivial)
  have found := locked.take someSupply rfl (by rintro q ⟨⟩; trivial)
  refine ⟨oneHeld_exclusive, _, _, found.1, rfl, ?_⟩
  exact ((Reachable.exclusive oneHeld_exclusive found.1).2 0 _ _ rfl).2.2

theorem deletion_guarded :
    oneHeld.Guarded ∧ ∃ s, Reachable oneHeld s ∧ s.state.committed.users.live? (.ofNat 3) = none ∧
      s.state.committed.Guarded := by
  have lifecycle : InLifecycle (.deleteUser { userId := .ofNat 2, role := .admin } (.ofNat 3)) := trivial
  have called := Solo.call oneHeld 0 lifecycle
  have begun := called.take someSupply rfl (by simp)
  have locked := begun.take someSupply rfl (by rintro q ⟨⟩; trivial)
  have counted := locked.take someSupply rfl (by rintro q ⟨⟩; trivial)
  have archived := counted.take someSupply rfl (by rintro q ⟨⟩; trivial)
  have committed := archived.take someSupply rfl (by simp)
  exact ⟨oneHeld_guarded, _, committed.1, rfl, Reachable.guarded oneHeld_guarded committed.1⟩

end System
end AssetRegistry.Store
