import AssetRegistry.Proofs.Locking

namespace AssetRegistry.Store

/-- Tables that hold the same rows. -/
structure Tables.Alike (x y : Tables) : Prop where
  assets : ∀ id, x.assets.lookup id = y.assets.lookup id
  entries : ∀ id, x.entries.lookup id = y.entries.lookup id
  users : ∀ id, x.users.lookup id = y.users.lookup id

/-- What is committed later lies over what was committed earlier, however they are put together. -/
theorem Tables.alike_union_assoc (x y z : Tables) : (x ∪ (y ∪ z)).Alike (x ∪ y ∪ z) where
  assets id := by simp [Option.or_assoc]
  entries id := by simp [Option.or_assoc]
  users id := by simp [Option.or_assoc]

theorem Tables.Alike.assigns {x y : Tables} (alike : x.Alike y) {e : Uuid} {d : EntryData} :
    x.Assigns e d ↔ y.Assigns e d := by
  rw [Assigns, Assigns, alike.entries]

/-- A property of tables that no permitted write and no commit of another transaction takes away. -/
structure Kept (P : Tables → Prop) : Prop where
  alike : ∀ {x y : Tables}, x.Alike y → P x → P y
  write : ∀ {s : State} {i : Nat} {t : Transaction} {known : Set Fact} (new : Supply) {q : Statement},
    s.opened i = some t → (∀ fact ∈ known, fact.Holds s.committed t) → Permits known q → s.Fresh new q →
    P (t.written ∪ s.committed) → P ((t.written ∪ s.committed).written new q ∪ (t.written ∪ s.committed))
  commit : ∀ {t t' : Transaction} {committed : Tables}, t.Orderly committed → t'.Orderly committed → t.Apart t' →
    P (t.written ∪ committed) → P (t'.written ∪ committed) → P (t'.written ∪ (t.written ∪ committed))

/-- What a connection knows holds of what is committed, under the locks of its own transaction. -/
def Knowledge.Sound (committed : Tables) (opened : Option Transaction) : Knowledge → Prop
  | none => opened = none
  | some facts => ∃ t, opened = some t ∧ ∀ fact ∈ facts, fact.Holds committed t

/-- The property holds of the committed rows and of what each transaction sees, all transactions are orderly and apart,
and they know nothing false. -/
structure State.Invariant (P : Tables → Prop) (s : State) (known : Nat → Knowledge) : Prop where
  committed : P s.committed
  view : ∀ i t, s.opened i = some t → P (t.written ∪ s.committed)
  orderly : ∀ i t, s.opened i = some t → t.Orderly s.committed
  apart : ∀ i j t t', j ≠ i → s.opened i = some t → s.opened j = some t' → t.Apart t'
  sound : ∀ i, (known i).Sound s.committed (s.opened i)

namespace State
variable {P : Tables → Prop} {s : State} {known : Nat → Knowledge} {i : Nat} {t : Transaction}

theorem put_opened (s : State) (i : Nat) (x : Session) (j : Nat) :
    (s.put i x).opened j = if j = i then x.opened else s.opened j := Function.update_apply _ _ _ _

/-- A connection changes its transaction and its knowledge, and nothing is committed. -/
theorem Invariant.replace (invariant : s.Invariant P known) {opened : Option Transaction} {knows : Knowledge}
    (view : ∀ t, opened = some t → P (t.written ∪ s.committed))
    (orderly : ∀ t, opened = some t → t.Orderly s.committed)
    (apart : ∀ j t t', j ≠ i → opened = some t → s.opened j = some t' → t.Apart t')
    (sound : knows.Sound s.committed opened) :
    (s.put i { committed := s.committed, opened }).Invariant P (Function.update known i knows) where
  committed := invariant.committed
  view j t isOpen := by
    rw [put_opened] at isOpen
    split at isOpen
    · exact view t isOpen
    · exact invariant.view j t isOpen
  orderly j t isOpen := by
    rw [put_opened] at isOpen
    split at isOpen
    · exact orderly t isOpen
    · exact invariant.orderly j t isOpen
  apart j j' t t' differ isOpen isOpen' := by
    rw [put_opened] at isOpen isOpen'
    split at isOpen
    · next here =>
      subst here
      exact apart j' t t' differ isOpen (by simpa [differ] using isOpen')
    · next elsewhere =>
      split at isOpen'
      · next here =>
        subst here
        exact (apart j t' t elsewhere isOpen' isOpen).symm
      · exact invariant.apart j j' t t' differ isOpen isOpen'
  sound j := by
    rw [put_opened, Function.update_apply]
    split
    · exact sound
    · exact invariant.sound j

theorem Invariant.undo (invariant : s.Invariant P known) (i : Nat) :
    (s.put i { committed := s.committed, opened := none }).Invariant P (Function.update known i none) :=
  invariant.replace (by simp) (by simp) (by simp) rfl

/-- A transaction begins, with nothing written and nothing locked. -/
theorem Invariant.begin (invariant : s.Invariant P known) (i : Nat) :
    (s.put i { committed := s.committed, opened := some {} }).Invariant P
      (Function.update known i (some {.nothingWritten})) := by
  refine invariant.replace ?_ ?_ ?_ ⟨_, rfl, ?_⟩
  · rintro _ ⟨⟩
    rw [Tables.empty_union]
    exact invariant.committed
  · rintro _ ⟨⟩
    constructor <;> simp
  · rintro j _ t' _ ⟨⟩ _
    constructor <;> simp
  · rintro _ rfl
    exact rfl

/-- A commit. The writes are sanctioned by rows that the transaction has locked, so the facts of others stay true. -/
theorem Invariant.commit (kept : Kept P) (invariant : s.Invariant P known) (isOpen : s.opened i = some t) :
    (s.put i { committed := t.written ∪ s.committed, opened := none }).Invariant P (Function.update known i none) := by
  have orderly := invariant.orderly i t isOpen
  have opened {j : Nat} {t' : Transaction}
      (isOpen' : (s.put i { committed := t.written ∪ s.committed, opened := none }).opened j = some t') :
      j ≠ i ∧ s.opened j = some t' := by
    rw [put_opened] at isOpen'
    split at isOpen'
    · cases isOpen'
    · next elsewhere => exact ⟨elsewhere, isOpen'⟩
  constructor
  · exact invariant.view i t isOpen
  · intro j t' isOpen'
    obtain ⟨elsewhere, isOpen'⟩ := opened isOpen'
    have apart := invariant.apart i j t t' elsewhere isOpen isOpen'
    exact kept.commit orderly (invariant.orderly j t' isOpen') apart (invariant.view i t isOpen)
      (invariant.view j t' isOpen')
  · intro j t' isOpen'
    obtain ⟨elsewhere, isOpen'⟩ := opened isOpen'
    exact (invariant.orderly j t' isOpen').of_commit (invariant.apart i j t t' elsewhere isOpen isOpen')
  · intro j j' t' t'' differ isOpen' isOpen''
    exact invariant.apart j j' t' t'' differ (opened isOpen').2 (opened isOpen'').2
  · intro j
    rw [put_opened, Function.update_apply]
    split
    · exact rfl
    · next elsewhere =>
      have sound := invariant.sound j
      cases knows : known j with
      | none =>
        rw [knows] at sound
        exact sound
      | some facts =>
        rw [knows] at sound
        obtain ⟨t', isOpen', holds⟩ := sound
        refine ⟨t', isOpen', fun fact member => ?_⟩
        exact (holds fact member).of_commit orderly (invariant.orderly j t' isOpen')
          (invariant.apart i j t t' elsewhere isOpen isOpen')

theorem written_of_reads {q : Statement} (reads : q.writes = false) (view : Tables) (new : Supply) :
    view.written new q = ∅ := by
  cases q <;> first | rfl | cases reads

theorem lockTaken_of_writes {q : Statement} (writes : q.writes = true) (view : Tables) : view.lockTaken q = none := by
  cases q <;> first | rfl | cases writes

theorem learn_of_writes {facts : Set Fact} {q : Statement} {reply : Reply} {fact : Fact} (writes : q.writes = true)
    (member : fact ∈ learn facts q reply) : False := by
  rcases member with ⟨reads, _⟩ | learns
  · simp [writes] at reads
  · cases learns <;> cases writes

/-- A statement that is permitted: its writes are sanctioned by the known facts, and what it reads may lock a row and
add to them. -/
theorem Invariant.statement (kept : Kept P) (invariant : s.Invariant P known) {facts : Set Fact} (new : Supply)
    {q : Statement} (knows : known i = some facts) (permitted : Permits facts q) (fresh : s.Fresh new q)
    (unlocked : s.Unlocked i q) :
    (s.put i ((s.session i).react new (.statement q)).2).Invariant P
      (Function.update known i (some (learn facts q ((s.session i).react new (.statement q)).1))) := by
  have sound := invariant.sound i
  rw [knows] at sound
  obtain ⟨t, isOpen, holds⟩ := sound
  have orderly := invariant.orderly i t isOpen
  have seen : (s.session i).view = t.written ∪ s.committed := by simp [Session.view, session, isOpen]
  have reacted : (s.session i).react new (.statement q) = ((t.written ∪ s.committed).answer new q,
      { committed := s.committed
        opened := some (t.extend ((t.written ∪ s.committed).written new q) ((t.written ∪ s.committed).lockTaken q)) }) := by
    simp only [Session.react, seen]
    simp [session, isOpen]
  rw [reacted]
  -- A write takes no lock and leaves nothing known, a read writes nothing and takes no fact away.
  cases kind : q.writes with
  | true =>
    have sanctioned := sanctioned_written new holds permitted fresh
    rw [lockTaken_of_writes kind]
    refine invariant.replace ?_ ?_ ?_ ⟨_, rfl, fun fact member => (learn_of_writes kind member).elim⟩
    · rintro _ ⟨⟩
      have written := kept.write new isOpen holds permitted fresh (invariant.view i t isOpen)
      exact kept.alike (Tables.alike_union_assoc _ _ _) written
    · rintro _ ⟨⟩
      exact orderly.write sanctioned
    · rintro j _ t' differ ⟨⟩ isOpen'
      exact (invariant.apart i j t t' differ isOpen isOpen').write orderly (invariant.orderly j t' isOpen') isOpen'
        sanctioned
  | false =>
    rw [written_of_reads kind]
    refine invariant.replace ?_ ?_ ?_ ⟨_, rfl, ?_⟩
    · rintro _ ⟨⟩
      rw [Transaction.extend, Tables.empty_union]
      exact invariant.view i t isOpen
    · rintro _ ⟨⟩
      exact orderly.lock q
    · rintro j _ t' differ ⟨⟩ isOpen'
      exact (invariant.apart i j t t' differ isOpen isOpen').lock differ isOpen isOpen' unlocked
    · rintro fact (⟨_, old⟩ | learns)
      · exact (holds fact old).lock _
      · exact holds_learned holds learns

theorem learn_failed {facts : Set Fact} {q : Statement} {fault : Fault} {fact : Fact}
    (member : fact ∈ learn facts q (.failed fault)) : fact ∈ facts := by
  rcases member with ⟨_, old⟩ | learns
  · exact old
  · cases learns <;> simp_all [Reply.first?, Reply.first]

/-- Whatever happens to a message that the protocol accepts, the invariant is kept. -/
theorem Invariant.react (kept : Kept P) (invariant : s.Invariant P known) {m : Message} {reply : Reply} {s' : State}
    (accepted : protocol.accepts (known i) m) (reacts : s.Reacts i m reply s') :
    s'.Invariant P (Function.update known i ((known i).after m reply)) := by
  have sound := invariant.sound i
  cases knows : known i with
  | none =>
    rw [knows] at accepted sound
    have isOpen : s.opened i = none := sound
    cases m with
    | begin =>
      cases reacts with
      | takes new admitted =>
        have reacted : (s.session i).react new .begin = (.affected 0, { committed := s.committed, opened := some {} }) := by
          simp [Session.react, session, isOpen]
        rw [reacted]
        exact invariant.begin i
      | refuses fault =>
        have refused : (s.session i).refuse .begin = { committed := s.committed, opened := none } := by
          simp [Session.refuse, session, isOpen]
        rw [refused]
        exact invariant.undo i
    | rollback =>
      cases reacts with
      | takes new admitted => exact invariant.undo i
      | refuses fault => exact invariant.undo i
    | commit => exact accepted.elim
    | statement q => exact accepted.elim
  | some facts =>
    rw [knows] at accepted sound
    obtain ⟨t, isOpen, holds⟩ := sound
    have committed (new : Supply) : (s.session i).react new .commit =
        (.affected 0, { committed := t.written ∪ s.committed, opened := none }) := by
      simp [Session.react, Session.view, session, isOpen]
    cases m with
    | begin => exact accepted.elim
    | rollback =>
      cases reacts with
      | takes new admitted => exact invariant.undo i
      | refuses fault => exact invariant.undo i
    | commit =>
      cases reacts with
      | takes new admitted =>
        rw [committed new]
        exact invariant.commit kept isOpen
      | refuses fault => exact invariant.undo i
      | loses new fault =>
        rw [committed new]
        exact invariant.commit kept isOpen
    | statement q =>
      cases reacts with
      | takes new admitted => exact invariant.statement kept new knows accepted admitted.1 admitted.2
      | refuses fault =>
        show (s.put i { committed := s.committed, opened := s.opened i }).Invariant P _
        refine invariant.replace (invariant.view i) (invariant.orderly i) ?_ ?_
        · intro j t₁ t₂ differ isOpen₁ isOpen₂
          exact invariant.apart i j t₁ t₂ differ isOpen₁ isOpen₂
        · exact ⟨t, isOpen, fun fact member => holds fact (learn_failed member)⟩

end State

/-- The store keeps the invariant, and what is still to be sent follows the protocol. -/
structure System.Invariant (P : Tables → Prop) (s : System) (known : Nat → Knowledge) : Prop where
  state : s.state.Invariant P known
  follows : ∀ i, (s.programs i).Ensures protocol (known i) fun _ now => now = none

namespace System
variable {P : Tables → Prop}

/-- Whatever happens next, the invariant holds again, with knowledge that fits the step. -/
theorem Invariant.step (kept : Kept P) {s s' : System} {known : Nat → Knowledge} (invariant : s.Invariant P known)
    (step : Step s s') : ∃ known', s'.Invariant P known' := by
  cases step with
  | call i m finished lifecycle =>
    have outside : known i = none := by simpa [finished, Dialogue.Ensures] using invariant.follows i
    refine ⟨known, invariant.state, fun j => ?_⟩
    dsimp only
    rw [Function.update_apply]
    split
    · next here =>
      rw [here, outside]
      exact callDialogue_follows lifecycle
    · exact invariant.follows j
  | @exchange i m next reply after sends reacts =>
    have follows := invariant.follows i
    rw [sends] at follows
    refine ⟨_, invariant.state.react kept follows.1 reacts, fun j => ?_⟩
    dsimp only
    rw [Function.update_apply, Function.update_apply]
    split
    · exact follows.2 reply _ rfl
    · exact invariant.follows j
  | drop i =>
    refine ⟨_, invariant.state.undo i, fun j => ?_⟩
    dsimp only
    rw [Function.update_apply, Function.update_apply]
    split
    · exact rfl
    · exact invariant.follows j

/-- A kept property that holds in the beginning holds whatever is done in whatever order. -/
theorem Reachable.invariant (kept : Kept P) {initial : Tables} (start : P initial) {s : System}
    (reachable : Reachable initial s) : ∃ known, s.Invariant P known := by
  induction reachable with
  | idle =>
    refine ⟨fun _ => none, ?_, fun _ => rfl⟩
    exact ⟨start, by simp [System.idle], by simp [System.idle], by simp [System.idle], fun _ => rfl⟩
  | step _ step ih =>
    obtain ⟨known, invariant⟩ := ih
    exact invariant.step kept step

end System
end AssetRegistry.Store
