import AssetRegistry.Proofs.Interleaving

namespace AssetRegistry.Store

/-- Runs a dialogue to its end. The first message gets the first supply, and so on. -/
def Dialogue.serve {α : Type} : Dialogue α → (Nat → Supply) → Session → α × Session
  | .done a, _, s => (a, s)
  | .send m next, new, s => (next (s.react (new 0) m).1).serve (fun n => new (n + 1)) (s.react (new 0) m).2

/-- The identifier of a new row is in use nowhere, and a new ledger row is younger than all others. -/
def Tables.Suits (t : Tables) (new : Supply) : Message → Prop
  | .statement (.insertAsset _) => new.assetId ∉ t.assets
  | .statement (.recordStatus _ _) | .statement (.insertAssignment _ _) =>
    new.entryId ∉ t.entries ∧ ∀ e ∈ t.entries.entries, e.2.createdAt.micros < new.now.micros
  | _ => True

instance (t : Tables) (new : Supply) (m : Message) : Decidable (t.Suits new m) := by
  unfold Tables.Suits
  split <;> infer_instance

namespace Session

theorem eq_of_idle {s : Session} (idle : s.opened = none) : s = { committed := s.committed, opened := none } := by
  cases s
  cases idle
  rfl

/-- A transaction is open that has written the rows. -/
def Open (s : Session) (committed written : Tables) : Prop :=
  s.committed = committed ∧ ∃ t, s.opened = some t ∧ t.written = written

/-- In its own transaction a session sees what it has written over what was committed. -/
theorem Open.view {s : Session} {committed written : Tables} (isOpen : s.Open committed written) :
    s.view = written ∪ committed := by
  obtain ⟨rfl, t, isOpen, rfl⟩ := isOpen
  simp [Session.view, isOpen]

/-- A statement is answered from that view, and its writes come over the earlier ones of the transaction. -/
theorem Open.statement {s : Session} {committed written : Tables} (isOpen : s.Open committed written) (new : Supply)
    (q : Statement) :
    (s.react new (.statement q)).1 = (written ∪ committed).answer new q ∧
      (s.react new (.statement q)).2.Open committed ((written ∪ committed).written new q ∪ written) := by
  have seen := isOpen.view
  obtain ⟨rfl, t, isOpen, rfl⟩ := isOpen
  simp [Session.react, isOpen, seen, Session.Open, Transaction.extend]

end Session

/-- Along a dialogue every supply suits the message that gets it, and no message fails. -/
def Dialogue.Supplied {α : Type} : Dialogue α → (Nat → Supply) → Session → Prop
  | .done _, _, _ => True
  | .send m next, new, s =>
    (s.view.Suits (new 0) m ∧ (s.react (new 0) m).1.isFailed = false) ∧
      (next (s.react (new 0) m).1).Supplied (fun n => new (n + 1)) (s.react (new 0) m).2

instance Dialogue.decidableSupplied {α : Type} :
    (d : Dialogue α) → (new : Nat → Supply) → (s : Session) → Decidable (d.Supplied new s)
  | .done _, _, _ => isTrue trivial
  | .send m next, new, s =>
    have := (next (s.react (new 0) m).1).decidableSupplied (fun n => new (n + 1)) (s.react (new 0) m).2
    inferInstanceAs (Decidable ((_ ∧ _) ∧ _))

/-- A peer that is such a store. -/
def serving : Peer Session where
  accepts _ _ := True
  answers s m reply after :=
    ∃ new, s.view.Suits new m ∧ reply.isFailed = false ∧ reply = (s.react new m).1 ∧ after = (s.react new m).2

/-- What is ensured against the serving store holds of every run that has fresh rows to hand out. -/
theorem Dialogue.Ensures.serve {α : Type} {d : Dialogue α} {s : Session} {post : α → Session → Prop}
    (ensured : d.Ensures serving s post) {new : Nat → Supply} (supplied : d.Supplied new s) :
    post (d.serve new s).1 (d.serve new s).2 := by
  induction d generalizing s new with
  | done a => exact ensured
  | send m next ih =>
    obtain ⟨⟨suits, succeeds⟩, rest⟩ := supplied
    exact ih _ (ensured.2 _ _ ⟨new 0, suits, succeeds, rfl, rfl⟩) rest

namespace Exchange
variable {ε α : Type} {s : Session} {committed written : Tables} {ok : α → Session → Prop} {error : ε → Session → Prop}

/-- An exchange with the serving store ends well or ill as its two conditions say. -/
theorem Ensures.serve {x : Exchange ε α} (ensured : x.Ensures serving s ok error) {new : Nat → Supply}
    (supplied : x.run.Supplied new s) :
    (∃ a, (x.run.serve new s).1 = .ok a ∧ ok a (x.run.serve new s).2) ∨
      ∃ e, (x.run.serve new s).1 = .error e ∧ error e (x.run.serve new s).2 := by
  have served := Dialogue.Ensures.serve ensured supplied
  cases result : (x.run.serve new s).1 with
  | ok a => exact Or.inl ⟨a, rfl, by simpa [result] using served⟩
  | error e => exact Or.inr ⟨e, rfl, by simpa [result] using served⟩

/-- One statement in a transaction that is open: its answer reads, and the rest goes on from its writes. -/
theorem serves_single {q : Statement} {read : Reply → Except ε α} (isOpen : s.Open committed written)
    (serves : ∀ new, (written ∪ committed).Suits new (.statement q) →
      ∃ a, read ((written ∪ committed).answer new q) = .ok a ∧
        ∀ after : Session, after.Open committed ((written ∪ committed).written new q ∪ written) → ok a after) :
    (single q read).Ensures serving s ok error := by
  refine ensures_single.2 ⟨trivial, ?_⟩
  rintro _ _ ⟨new, suits, _, rfl, rfl⟩
  obtain ⟨answered, after⟩ := isOpen.statement new q
  rw [isOpen.view] at suits
  obtain ⟨a, reads, served⟩ := serves new suits
  rw [answered, reads]
  refine ⟨fun a' same => ?_, fun e same => by cases same⟩
  obtain rfl := Except.ok.inj same
  exact served _ after

/-- A statement that writes nothing, at the beginning of a transaction. -/
theorem serves_read {q : Statement} {read : Reply → Except ε α} (isOpen : s.Open committed ∅)
    (writesNothing : ∀ new, committed.written new q = ∅)
    (onOk : ∀ new a (after : Session), (committed.answer new q).isFailed = false →
      read (committed.answer new q) = .ok a → after.Open committed ∅ → ok a after)
    (onError : ∀ new e (after : Session), (committed.answer new q).isFailed = false →
      read (committed.answer new q) = .error e → after.Open committed ∅ → error e after) :
    (single q read).Ensures serving s ok error := by
  refine ensures_single.2 ⟨trivial, ?_⟩
  rintro _ _ ⟨new, _, succeeds, rfl, rfl⟩
  obtain ⟨answered, after⟩ := isOpen.statement new q
  rw [Tables.empty_union] at answered after
  rw [writesNothing, Tables.empty_union] at after
  rw [answered] at succeeds ⊢
  exact ⟨fun a reads => onOk new a _ succeeds reads after, fun e reads => onError new e _ succeeds reads after⟩

theorem serves_known {q : Statement} {read : Reply → Except ε α} {a : α} (isOpen : s.Open committed ∅)
    (writesNothing : ∀ new, committed.written new q = ∅)
    (reads : ∀ new, read (committed.answer new q) = .ok a)
    (served : ∀ after : Session, after.Open committed ∅ → ok a after) :
    (single q read).Ensures serving s ok error := by
  refine serves_read isOpen writesNothing (fun new a' after _ reads' isOpen => ?_) fun new e after _ reads' => ?_
  · rw [reads] at reads'
    obtain rfl := Except.ok.inj reads'
    exact served after isOpen
  · rw [reads] at reads'
    cases reads'

theorem serves_outside {q : Statement} {read : Reply → Except ε α} (writesNothing : ∀ new, committed.written new q = ∅)
    (onOk : ∀ new a, (committed.answer new q).isFailed = false → read (committed.answer new q) = .ok a →
      ok a { committed, opened := none })
    (onError : ∀ new e, (committed.answer new q).isFailed = false → read (committed.answer new q) = .error e →
      error e { committed, opened := none }) :
    (single q read).Ensures serving { committed, opened := none } ok error := by
  refine ensures_single.2 ⟨trivial, ?_⟩
  rintro _ _ ⟨new, _, succeeds, rfl, rfl⟩
  simp only [Session.react, Session.view, writesNothing, Tables.empty_union] at succeeds ⊢
  exact ⟨fun a reads => onOk new a succeeds reads, fun e reads => onError new e succeeds reads⟩

/-- A transaction that is carried out on its own: what its work has written is committed if the work succeeds. -/
theorem serves_transaction {ofStore : StoreError → ε} {work : Exchange ε α} {committed : Tables} {ok : α → Tables → Prop}
    {error : ε → Prop}
    (serves : ∀ s : Session, s.Open committed ∅ → work.Ensures serving s
      (fun a s => ∃ written, s.Open committed written ∧ ok a (written ∪ committed))
      fun e s => (∃ written, s.Open committed written) ∧ error e) :
    (transaction ofStore work).Ensures serving { committed, opened := none }
      (fun a s => s.opened = none ∧ ok a s.committed)
      fun e s => s = { committed, opened := none } ∧ error e := by
  refine ensures_transaction.2 (Dialogue.ensures_settle.2 ⟨trivial, ?_⟩)
  rintro _ _ ⟨_, _, _, rfl, rfl⟩
  refine ⟨fun fault failed => (by cases failed), fun _ => ?_⟩
  refine (serves _ ⟨rfl, {}, rfl, rfl⟩).mono ?_
  rintro (e | a) s ended
  · obtain ⟨⟨written, isOpen⟩, failed⟩ := ended
    refine ⟨trivial, ?_⟩
    rintro _ _ ⟨_, _, _, rfl, rfl⟩
    exact ⟨by simp [Session.react, isOpen.1], failed⟩
  · obtain ⟨written, isOpen, succeeded⟩ := ended
    refine ⟨trivial, ?_⟩
    rintro _ _ ⟨_, _, _, rfl, rfl⟩
    refine ⟨fun fault failed => (by cases failed), fun _ => ⟨rfl, ?_⟩⟩
    simpa [Session.react, isOpen.view] using succeeded

end Exchange
end AssetRegistry.Store
