import AssetRegistry.Proofs.Protocol

namespace AssetRegistry.Store

/-- What an open transaction has written lies under its locks or is new. -/
structure Transaction.Orderly (t : Transaction) (committed : Tables) : Prop where
  locks_found : ∀ a exclusive, { row := .asset a, exclusive } ∈ t.locks → a ∈ t.written.assets ∨ a ∈ committed.assets
  assets_locked : ∀ a ∈ t.written.assets, { row := .asset a, exclusive := true } ∈ t.locks ∨ a ∉ committed.assets
  entries_locked : ∀ e row, t.written.entries.lookup e = some row → row.data.status = .assigned →
    { row := .asset row.data.assetId, exclusive := true } ∈ t.locks
  /-- Of a committed entry nothing but the times is changed, and only if it assigns an asset. -/
  entries_kept : ∀ e row old, t.written.entries.lookup e = some row → committed.entries.lookup e = some old →
    row.data = old.data ∧ old.data.status = .assigned
  users_locked : ∀ u ∈ t.written.users, { row := .user u, exclusive := true } ∈ t.locks
  holders_locked : ∀ e d u, t.written.Assigns e d → d.assignedTo = some u →
    ∃ exclusive, { row := .user u, exclusive } ∈ t.locks

/-- Two open transactions that do not get in each other's way. -/
structure Transaction.Apart (t t' : Transaction) : Prop where
  locks : ∀ l ∈ t.locks, ∀ l' ∈ t'.locks, ¬l.Conflicts l'
  assets : ∀ a ∈ t.written.assets, a ∉ t'.written.assets
  entries : ∀ e ∈ t.written.entries, e ∉ t'.written.entries

theorem Lock.Conflicts.symm {l l' : Lock} (conflict : l.Conflicts l') : l'.Conflicts l :=
  ⟨conflict.1.symm, conflict.2.symm⟩

theorem Transaction.Apart.symm {t t' : Transaction} (apart : t.Apart t') : t'.Apart t where
  locks l member l' member' conflict := apart.locks l' member' l member conflict.symm
  assets a member member' := apart.assets a member' member
  entries e member member' := apart.entries e member' member

namespace Transaction
variable {t t' : Transaction} {committed : Tables}

/-- What one transaction has locked for itself no other one has locked. -/
theorem Apart.unlocked (apart : t.Apart t') {row : RowRef} {exclusive : Bool}
    (locked : { row, exclusive := true } ∈ t.locks) : { row, exclusive } ∉ t'.locks :=
  fun locked' => apart.locks _ locked _ locked' ⟨rfl, Or.inl rfl⟩

/-- An asset that one transaction has locked is not written by another. -/
theorem Orderly.asset_untouched (orderly : t.Orderly committed) (orderly' : t'.Orderly committed) (apart : t.Apart t')
    {a : Uuid} (locked : { row := .asset a, exclusive := true } ∈ t'.locks) : a ∉ t.written.assets := by
  intro writes
  rcases orderly.assets_locked a writes with lockedHere | isNew
  · exact apart.unlocked lockedHere locked
  · rcases orderly'.locks_found a true locked with written' | old
    · exact apart.assets a writes written'
    · exact isNew old

/-- A user whom one transaction has locked, in either way, is not written by another. -/
theorem Orderly.user_untouched (orderly : t.Orderly committed) (apart : t.Apart t') {u : Uuid} {exclusive : Bool}
    (locked : { row := .user u, exclusive } ∈ t'.locks) : u ∉ t.written.users :=
  fun writes => apart.unlocked (orderly.users_locked u writes) locked

theorem Orderly.asset_locked (orderly : t.Orderly committed) {e : Uuid} {d : EntryData}
    (assigns : t.written.Assigns e d) : { row := .asset d.assetId, exclusive := true } ∈ t.locks := by
  obtain ⟨assigned, row, found, _, rfl⟩ := assigns
  exact orderly.entries_locked e row found assigned

/-- Assignments of an asset that a transaction has not locked are not changed by its commit. -/
theorem Orderly.assigns_commit (orderly : t.Orderly committed) {e : Uuid} {d : EntryData}
    (unlocked : { row := .asset d.assetId, exclusive := true } ∉ t.locks) :
    (t.written ∪ committed).Assigns e d ↔ committed.Assigns e d := by
  rw [Tables.assigns_union]
  constructor
  · rintro (assigns | ⟨_, assigns⟩)
    · exact absurd (orderly.asset_locked assigns) unlocked
    · exact assigns
  · intro assigns
    refine Or.inr ⟨?_, assigns⟩
    obtain ⟨assigned, old, found, _, rfl⟩ := assigns
    cases writes : t.written.entries.lookup e with
    | none => rfl
    | some row =>
      have same := (orderly.entries_kept e row old writes found).1
      exact absurd (same ▸ orderly.entries_locked e row writes (same ▸ assigned)) unlocked

/-- A commit leaves what another transaction sees of its locked assets as it is. -/
theorem Orderly.assigns_view (orderly : t.Orderly committed) (apart : t.Apart t') {e : Uuid} {d : EntryData}
    (locked : { row := .asset d.assetId, exclusive := true } ∈ t'.locks) :
    (t'.written ∪ (t.written ∪ committed)).Assigns e d ↔ (t'.written ∪ committed).Assigns e d := by
  rw [Tables.assigns_union, orderly.assigns_commit (apart.symm.unlocked locked), ← Tables.assigns_union]

/-- A commit of another transaction leaves an orderly one orderly. -/
theorem Orderly.of_commit (orderly' : t'.Orderly committed) (apart : t.Apart t') :
    t'.Orderly (t.written ∪ committed) where
  locks_found a exclusive locked := by
    rcases orderly'.locks_found a exclusive locked with written' | old
    · exact Or.inl written'
    · exact Or.inr (AList.mem_union.2 (Or.inr old))
  assets_locked a written' := by
    rcases orderly'.assets_locked a written' with locked | isNew
    · exact Or.inl locked
    · refine Or.inr fun member => ?_
      rcases AList.mem_union.1 member with written | old
      · exact apart.assets a written written'
      · exact isNew old
  entries_locked := orderly'.entries_locked
  entries_kept e row old writes found := by
    have notWritten : t.written.entries.lookup e = none := by
      have member' : e ∈ t'.written.entries := AList.lookup_isSome.1 (by simp [writes])
      exact AList.lookup_eq_none.2 (apart.symm.entries e member')
    refine orderly'.entries_kept e row old writes ?_
    simpa [notWritten] using found
  users_locked := orderly'.users_locked
  holders_locked := orderly'.holders_locked

end Transaction

/-- What a fact says of the rows that a transaction sees. -/
def Fact.Holds (committed : Tables) (t : Transaction) : Fact → Prop
  | .nothingWritten => t.written = ∅
  | .assetLocked a =>
    { row := .asset a, exclusive := true } ∈ t.locks ∧ ((t.written ∪ committed).assets.live? a).isSome
  | .unassigned a =>
    { row := .asset a, exclusive := true } ∈ t.locks ∧ ((t.written ∪ committed).assets.live? a).isSome ∧
      ∀ e d, (t.written ∪ committed).Assigns e d → d.assetId ≠ a
  | .assigns e a =>
    { row := .asset a, exclusive := true } ∈ t.locks ∧ e ∉ t.written.entries ∧
      ∃ d, committed.Assigns e d ∧ d.assetId = a
  | .userLocked u exclusive =>
    { row := .user u, exclusive } ∈ t.locks ∧ ((t.written ∪ committed).users.live? u).isSome
  | .holdsNothing u =>
    { row := .user u, exclusive := true } ∈ t.locks ∧ ((t.written ∪ committed).users.live? u).isSome ∧
      ∀ e d, (t.written ∪ committed).Assigns e d → d.assignedTo ≠ some u

/-- No commit of another transaction takes a fact away. -/
theorem Fact.Holds.of_commit {t t' : Transaction} {committed : Tables} {fact : Fact} (orderly : t.Orderly committed)
    (orderly' : t'.Orderly committed) (apart : t.Apart t') (holds : fact.Holds committed t') :
    fact.Holds (t.written ∪ committed) t' := by
  have asset {a : Uuid} (locked : { row := .asset a, exclusive := true } ∈ t'.locks) :
      (t'.written ∪ (t.written ∪ committed)).assets.live? a = (t'.written ∪ committed).assets.live? a := by
    have untouched := AList.lookup_eq_none.2 (orderly.asset_untouched orderly' apart locked)
    simp [Table.live?, untouched]
  have user {u : Uuid} {exclusive : Bool} (locked : { row := .user u, exclusive } ∈ t'.locks) :
      (t'.written ∪ (t.written ∪ committed)).users.live? u = (t'.written ∪ committed).users.live? u := by
    have untouched := AList.lookup_eq_none.2 (orderly.user_untouched apart locked)
    simp [Table.live?, untouched]
  cases fact with
  | nothingWritten => exact holds
  | assetLocked a => exact ⟨holds.1, by rw [asset holds.1]; exact holds.2⟩
  | unassigned a =>
    obtain ⟨locked, live, unassigned⟩ := holds
    refine ⟨locked, by rw [asset locked]; exact live, ?_⟩
    rintro e d assigns rfl
    exact unassigned e d ((orderly.assigns_view apart locked).1 assigns) rfl
  | assigns e a =>
    obtain ⟨locked, notWritten, d, assigns, rfl⟩ := holds
    exact ⟨locked, notWritten, d, (orderly.assigns_commit (apart.symm.unlocked locked)).2 assigns, rfl⟩
  | userLocked u exclusive => exact ⟨holds.1, by rw [user holds.1]; exact holds.2⟩
  | holdsNothing u =>
    obtain ⟨locked, live, nothing⟩ := holds
    refine ⟨locked, by rw [user locked]; exact live, ?_⟩
    intro e d assigns held
    simp only [Tables.assigns_union] at assigns nothing
    -- Had the other transaction handed something to the user, it would hold a lock on that user.
    rcases assigns with own | ⟨notOwn, other | ⟨_, old⟩⟩
    · exact nothing e d (Or.inl own) held
    · obtain ⟨exclusive, shared⟩ := orderly.holders_locked e d u other held
      exact apart.symm.unlocked locked shared
    · exact nothing e d (Or.inr ⟨notOwn, old⟩) held

/-- Rows that a transaction may write. -/
structure Sanctioned (s : State) (t : Transaction) (rows : Tables) : Prop where
  assets : ∀ a ∈ rows.assets, { row := .asset a, exclusive := true } ∈ t.locks ∨ s.Unused Tables.assets a
  entries_locked : ∀ e row, rows.entries.lookup e = some row → row.data.status = .assigned →
    { row := .asset row.data.assetId, exclusive := true } ∈ t.locks
  entries_kept : ∀ e row, rows.entries.lookup e = some row → s.Unused Tables.entries e ∨
    ∃ old, s.committed.entries.lookup e = some old ∧ row.data = old.data ∧ old.data.status = .assigned
  users : ∀ u ∈ rows.users, { row := .user u, exclusive := true } ∈ t.locks
  holders : ∀ e d u, rows.Assigns e d → d.assignedTo = some u → ∃ exclusive, { row := .user u, exclusive } ∈ t.locks

/-- Sanctioned writes keep a transaction orderly. -/
theorem Transaction.Orderly.write {s : State} {t : Transaction} {rows : Tables} (orderly : t.Orderly s.committed)
    (sanctioned : Sanctioned s t rows) : (t.extend rows none).Orderly s.committed where
  locks_found a exclusive locked := by
    rcases orderly.locks_found a exclusive locked with written | old
    · exact Or.inl (AList.mem_union.2 (Or.inr written))
    · exact Or.inr old
  assets_locked a member := by
    rcases AList.mem_union.1 member with here | before
    · rcases sanctioned.assets a here with locked | unused
      · exact Or.inl locked
      · exact Or.inr unused.1
    · exact orderly.assets_locked a before
  entries_locked e row found := by
    rcases Option.or_eq_some_iff.1 ((Table.lookup_union _ _ e).symm.trans found) with here | ⟨_, before⟩
    · exact sanctioned.entries_locked e row here
    · exact orderly.entries_locked e row before
  entries_kept e row old found foundOld := by
    rcases Option.or_eq_some_iff.1 ((Table.lookup_union _ _ e).symm.trans found) with here | ⟨_, before⟩
    · rcases sanctioned.entries_kept e row here with unused | ⟨old', foundOld', same⟩
      · exact absurd (AList.lookup_isSome.1 (by simp [foundOld])) unused.1
      · obtain rfl : old' = old := Option.some.inj (foundOld'.symm.trans foundOld)
        exact same
    · exact orderly.entries_kept e row old before foundOld
  users_locked u member := by
    rcases AList.mem_union.1 member with here | before
    · exact sanctioned.users u here
    · exact orderly.users_locked u before
  holders_locked e d u assigns held := by
    rcases Tables.assigns_union.1 assigns with here | ⟨_, before⟩
    · exact sanctioned.holders e d u here held
    · exact orderly.holders_locked e d u before held

/-- Sanctioned writes stay out of the way of others. -/
theorem Transaction.Apart.write {s : State} {t t' : Transaction} {rows : Tables} {j : Nat} (apart : t.Apart t')
    (orderly : t.Orderly s.committed) (orderly' : t'.Orderly s.committed) (opened : s.opened j = some t')
    (sanctioned : Sanctioned s t rows) : (t.extend rows none).Apart t' where
  locks := apart.locks
  assets a member member' := by
    rcases AList.mem_union.1 member with here | before
    · rcases sanctioned.assets a here with locked | unused
      · exact orderly'.asset_untouched orderly apart.symm locked member'
      · exact unused.2 j t' opened member'
    · exact apart.assets a before member'
  entries e member member' := by
    rcases AList.mem_union.1 member with here | before
    · obtain ⟨row, found⟩ := Option.isSome_iff_exists.1 (AList.lookup_isSome.2 here)
      obtain ⟨row', found'⟩ := Option.isSome_iff_exists.1 (AList.lookup_isSome.2 member')
      rcases sanctioned.entries_kept e row found with unused | ⟨old, foundOld, same, assigned⟩
      · exact unused.2 j t' opened member'
      · have same' := (orderly'.entries_kept e row' old found' foundOld).1
        have locked := sanctioned.entries_locked e row found (same ▸ assigned)
        have locked' := orderly'.entries_locked e row' found' (same' ▸ assigned)
        exact apart.unlocked locked (same ▸ same' ▸ locked')
    · exact apart.entries e before member'

theorem Sanctioned.none (s : State) (t : Transaction) : Sanctioned s t ∅ where
  assets a member := absurd member (AList.notMem_empty a)
  entries_locked e row found := by simp at found
  entries_kept e row found := by simp at found
  users u member := absurd member (AList.notMem_empty u)
  holders e d u assigns := absurd assigns (Tables.not_assigns_empty e d)

/-- Rows of assets may be written if they are locked or new. -/
theorem Sanctioned.ofAssets {s : State} {t : Transaction} {table : Table NewAsset}
    (assets : ∀ a ∈ table, { row := .asset a, exclusive := true } ∈ t.locks ∨ s.Unused Tables.assets a) :
    Sanctioned s t { assets := table } :=
  { Sanctioned.none s t with assets }

theorem Sanctioned.ofUsers {s : State} {t : Transaction} {table : Table Unit}
    (users : ∀ u ∈ table, { row := .user u, exclusive := true } ∈ t.locks) : Sanctioned s t { users := table } :=
  { Sanctioned.none s t with users }

/-- A new row of the ledger may be written; one that assigns needs the locks of its asset and its user. -/
theorem Sanctioned.ofEntry {s : State} {t : Transaction} {e : Uuid} {row : Stored EntryData}
    (unused : s.Unused Tables.entries e)
    (locked : row.data.status = .assigned → { row := .asset row.data.assetId, exclusive := true } ∈ t.locks)
    (holder : ∀ u, row.data.status = .assigned → row.data.assignedTo = some u →
      ∃ exclusive, { row := .user u, exclusive } ∈ t.locks) :
    Sanctioned s t { entries := .singleton e row } :=
  { Sanctioned.none s t with
    entries_locked := by
      intro e' row' found
      obtain ⟨rfl, rfl⟩ : e' = e ∧ row = row' := by simpa using found
      exact locked
    entries_kept := by
      intro e' row' found
      obtain ⟨rfl, -⟩ : e' = e ∧ row = row' := by simpa using found
      exact Or.inl unused
    holders := by
      rintro e' d u ⟨assigned, row', found, _, rfl⟩
      obtain ⟨-, rfl⟩ : e' = e ∧ row = row' := by simpa using found
      exact holder u assigned }

/-- What the protocol permits is sanctioned by the facts. -/
theorem sanctioned_written {s : State} {t : Transaction} {known : Set Fact} (new : Supply) {q : Statement}
    (holds : ∀ fact ∈ known, fact.Holds s.committed t) (permitted : Permits known q) (fresh : s.Fresh new q) :
    Sanctioned s t ((t.written ∪ s.committed).written new q) := by
  cases q
  case insertAsset asset =>
    refine Sanctioned.ofAssets fun a member => Or.inr ?_
    rw [Table.mem_singleton.1 member]
    exact fresh
  case recordStatus a status =>
    refine Sanctioned.ofEntry fresh (fun assigned => absurd assigned permitted) fun u assigned => ?_
    exact absurd assigned permitted
  case insertAssignment a u =>
    obtain ⟨unassigned, exclusive, user⟩ := permitted
    refine Sanctioned.ofEntry fresh (fun _ => (holds _ unassigned).1) fun u' _ held => ?_
    obtain rfl := Option.some.inj held
    exact ⟨exclusive, (holds _ user).1⟩
  case archiveEntry e =>
    obtain ⟨a, assigns⟩ := permitted
    obtain ⟨locked, notWritten, d, ⟨assigned, old, found, live, rfl⟩, rfl⟩ := holds _ assigns
    have stamps {e' : Uuid} {row : Stored EntryData}
        (found' : ((t.written ∪ s.committed).entries.stamped e new.now).lookup e' = some row) :
        e' = e ∧ row = { old with archivedAt := some new.now } := by
      obtain ⟨same, old', foundOld, _, rfl⟩ := Table.lookup_stamped_eq_some.1 found'
      obtain rfl : old = old' := by simpa [AList.lookup_eq_none.2 notWritten, found] using foundOld
      exact ⟨same, rfl⟩
    exact
      { Sanctioned.none s t with
        entries_locked := by
          intro e' row found' _
          obtain ⟨-, rfl⟩ := stamps found'
          exact locked
        entries_kept := by
          intro e' row found'
          obtain ⟨rfl, rfl⟩ := stamps found'
          exact Or.inr ⟨old, found, rfl, assigned⟩
        holders := by
          rintro e' d u ⟨_, row, found', live', _⟩
          obtain ⟨-, rfl⟩ := stamps found'
          cases live' }
  case archiveAsset a _ =>
    refine Sanctioned.ofAssets fun a' member => Or.inl ?_
    rw [Table.mem_stamped member]
    exact (holds _ permitted).1
  case archiveUser u _ =>
    refine Sanctioned.ofUsers fun u' member => ?_
    rw [Table.mem_stamped member]
    exact (holds _ permitted).1
  all_goals exact Sanctioned.none s t

theorem lockTaken_eq_some {view : Tables} {q : Statement} {lock : Lock} :
    view.lockTaken q = some lock ↔ q.lock? = some lock ∧ view.hasLive lock.row = true := by
  simp [Tables.lockTaken]

theorem mem_of_live {ρ : Type} {table : Table ρ} {id : Uuid} (live : (table.live? id).isSome) : id ∈ table := by
  obtain ⟨row, found⟩ := Option.isSome_iff_exists.1 live
  exact AList.lookup_isSome.1 (by simp [(Table.live?_eq_some.1 found).1])

theorem Transaction.Orderly.lock {t : Transaction} {committed : Tables} (orderly : t.Orderly committed) (q : Statement) :
    (t.extend ∅ ((t.written ∪ committed).lockTaken q)).Orderly committed := by
  have written : (t.extend ∅ ((t.written ∪ committed).lockTaken q)).written = t.written := Tables.empty_union _
  have kept {l : Lock} (held : l ∈ t.locks) : l ∈ (t.extend ∅ ((t.written ∪ committed).lockTaken q)).locks :=
    List.mem_append_right _ held
  constructor
  · intro a exclusive locked
    rw [written]
    rcases List.mem_append.1 locked with taken | held
    · have live := (lockTaken_eq_some.1 (Option.mem_toList.1 taken)).2
      exact AList.mem_union.1 (mem_of_live live)
    · exact orderly.locks_found a exclusive held
  · intro a member
    rw [written] at member
    exact (orderly.assets_locked a member).imp_left kept
  · intro e row found assigned
    rw [written] at found
    exact kept (orderly.entries_locked e row found assigned)
  · intro e row old found
    rw [written] at found
    exact orderly.entries_kept e row old found
  · intro u member
    rw [written] at member
    exact kept (orderly.users_locked u member)
  · intro e d u assigns held
    rw [written] at assigns
    exact (orderly.holders_locked e d u assigns held).imp fun _ => kept

/-- A lock that nobody holds in conflict keeps transactions apart. -/
theorem Transaction.Apart.lock {s : State} {i j : Nat} {t t' : Transaction} {q : Statement} (apart : t.Apart t')
    (other : j ≠ i) (opened : s.opened i = some t) (opened' : s.opened j = some t') (unlocked : s.Unlocked i q) :
    (t.extend ∅ ((t.written ∪ s.committed).lockTaken q)).Apart t' := by
  have written : (t.extend ∅ ((t.written ∪ s.committed).lockTaken q)).written = t.written := Tables.empty_union _
  constructor
  · intro l member l' member'
    rcases List.mem_append.1 member with taken | held
    · refine unlocked l ?_ j t' other opened' l' member'
      simpa [Session.view, State.session, opened] using taken
    · exact apart.locks l held l' member'
  · rw [written]
    exact apart.assets
  · rw [written]
    exact apart.entries

theorem Fact.Holds.lock {t : Transaction} {committed : Tables} {fact : Fact} (holds : fact.Holds committed t)
    (lock : Option Lock) : fact.Holds committed (t.extend ∅ lock) := by
  have written : (t.extend ∅ lock).written = t.written := Tables.empty_union _
  have kept {l : Lock} (held : l ∈ t.locks) : l ∈ (t.extend ∅ lock).locks := List.mem_append_right _ held
  cases fact with
  | nothingWritten => exact written.trans holds
  | assetLocked a => exact ⟨kept holds.1, by rw [written]; exact holds.2⟩
  | unassigned a => exact ⟨kept holds.1, by rw [written]; exact holds.2⟩
  | assigns e a => exact ⟨kept holds.1, by rw [written]; exact holds.2⟩
  | userLocked u exclusive => exact ⟨kept holds.1, by rw [written]; exact holds.2⟩
  | holdsNothing u => exact ⟨kept holds.1, by rw [written]; exact holds.2⟩

/-- What is learned from an answer is true of the rows that gave it. -/
theorem holds_learned {t : Transaction} {committed : Tables} {known : Set Fact} {new : Supply} {q : Statement}
    {fact : Fact} (holds : ∀ fact ∈ known, fact.Holds committed t)
    (learns : Learns known ((t.written ∪ committed).answer new q) q fact) :
    fact.Holds committed (t.extend ∅ ((t.written ∪ committed).lockTaken q)) := by
  have written : (t.extend ∅ ((t.written ∪ committed).lockTaken q)).written = t.written := Tables.empty_union _
  have taken {l : Lock} (asked : q.lock? = some l) (live : (t.written ∪ committed).hasLive l.row = true) :
      l ∈ (t.extend ∅ ((t.written ∪ committed).lockTaken q)).locks :=
    List.mem_append_left _ (Option.mem_toList.2 (lockTaken_eq_some.2 ⟨asked, live⟩))
  cases learns with
  | @assetLocked id found read =>
    have live : ((t.written ∪ committed).assets.live? id).isSome := by
      rw [Tables.first?_lockAsset] at read
      obtain ⟨row, isLive, _⟩ := Option.map_eq_some_iff.1 (Except.ok.inj read)
      exact Option.isSome_iff_exists.2 ⟨row, isLive⟩
    exact ⟨taken rfl live, by rw [written]; exact live⟩
  | @unassigned a locked read =>
    obtain ⟨held, live⟩ := holds _ locked
    rw [Tables.first_isAssigned] at read
    have none : (t.written ∪ committed).assignments (·.assetId = a) = [] := by simpa using read
    have here : (Fact.unassigned a).Holds committed t := by
      refine ⟨held, live, fun e d assigns => ?_⟩
      simpa using Tables.assignments_eq_nil.1 none e d assigns
    exact here.lock _
  | @assigns a e locked untouched read =>
    have nothing : t.written = ∅ := holds _ untouched
    rw [Tables.first?_findAssignment] at read
    obtain ⟨⟨e', d⟩, isHead, rfl⟩ := Option.map_eq_some_iff.1 (Except.ok.inj read)
    obtain ⟨assigns, wanted⟩ := Tables.mem_assignments.1 (List.mem_of_mem_head? isHead)
    rw [nothing, Tables.empty_union] at assigns
    have here : (Fact.assigns e' a).Holds committed t := by
      refine ⟨(holds _ locked).1, ?_, d, assigns, by simpa using wanted⟩
      rw [nothing]
      exact AList.notMem_empty _
    exact here.lock _
  | @userLocked u found exclusive read =>
    have live : ((t.written ∪ committed).users.live? u).isSome := by
      rw [Tables.first?_lockUser] at read
      obtain ⟨row, isLive, _⟩ := Option.map_eq_some_iff.1 (Except.ok.inj read)
      exact Option.isSome_iff_exists.2 ⟨row, isLive⟩
    exact ⟨taken rfl live, by rw [written]; exact live⟩
  | @holdsNothing u count locked read nothing =>
    obtain ⟨held, live⟩ := holds _ locked
    have zero := Tables.eq_zero_of_first_countReply read nothing
    have here : (Fact.holdsNothing u).Holds committed t := by
      refine ⟨held, live, fun e d assigns => ?_⟩
      simpa using Tables.assignments_eq_nil.1 (List.length_eq_zero_iff.1 zero) e d assigns
    exact here.lock _

end AssetRegistry.Store
