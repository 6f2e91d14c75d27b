import AssetRegistry.Proofs.Ensures

namespace AssetRegistry.Store

/-- A message and what was replied to it. -/
abbrev Event := Message × Reply

/-- All messages a dialogue sends, each with its reply, and the result. The first message gets the first reply, and so on,
so that every behaviour of a peer is some sequence of replies. -/
def Dialogue.against {α : Type} (replies : Nat → Reply) : Dialogue α → List Event × α
  | .done a => ([], a)
  | .send m next =>
    let (events, a) := (next (replies 0)).against fun i => replies (i + 1)
    ((m, replies 0) :: events, a)

/-- A peer that accepts anything, answers anything and remembers everything. -/
def recorder : Peer (List Event) where
  accepts _ _ := True
  answers past m reply now := now = past ++ [(m, reply)]

/-- What is ensured against the recorder holds of every run, whatever the replies are. -/
theorem Dialogue.Ensures.against {α : Type} {d : Dialogue α} {past : List Event} {post : α → List Event → Prop}
    (ensured : d.Ensures recorder past post) (replies : Nat → Reply) :
    post (d.against replies).2 (past ++ (d.against replies).1) := by
  induction d generalizing past replies with
  | done a => simpa only [Dialogue.against, Dialogue.Ensures, List.append_nil] using ensured
  | send m next ih =>
    have rest := ih (replies 0) (ensured.2 (replies 0) _ rfl) fun i => replies (i + 1)
    simpa only [Dialogue.against, List.append_assoc, List.singleton_append] using rest

/-- A peer that accepts messages of one kind and answers anything. -/
def Peer.only (kind : Message → Prop) : Peer Unit where
  accepts _ m := kind m
  answers _ _ _ _ := True

/-- Only messages of one kind are sent, whatever is answered. -/
def Exchange.Sends {ε α : Type} (kind : Message → Prop) (x : Exchange ε α) : Prop :=
  x.Ensures (.only kind) () (fun _ _ => True) fun _ _ => True

/-- Messages of one kind follow upon the past. -/
def Follows (kind : Message → Prop) (past now : List Event) : Prop :=
  ∃ sent, now = past ++ sent ∧ ∀ e ∈ sent, kind e.1

/-- A dialogue that sends messages of one kind adds nothing but such messages to the record. -/
theorem Dialogue.record_follows {α : Type} {kind : Message → Prop} {d : Dialogue α} {within : α → Unit → Prop}
    (sends : d.Ensures (.only kind) () within) (past : List Event) :
    d.Ensures recorder past fun _ now => Follows kind past now := by
  induction d generalizing past with
  | done a => exact ⟨[], (List.append_nil past).symm, by simp⟩
  | send m next ih =>
    refine ⟨trivial, ?_⟩
    rintro reply _ rfl
    refine (ih reply (sends.2 reply () trivial) _).mono ?_
    rintro a now ⟨sent, rfl, ofKind⟩
    refine ⟨(m, reply) :: sent, by simp, ?_⟩
    simpa using ⟨sends.1, fun m reply member => ofKind (m, reply) member⟩

namespace Exchange
variable {ε ε' α β : Type} {kind : Message → Prop}

theorem Sends.run {x : Exchange ε α} (sends : x.Sends kind) : x.run.Ensures (.only kind) () fun _ _ => True :=
  Dialogue.Ensures.mono sends fun _ _ _ => trivial

theorem Sends.mono {x : Exchange ε α} {wider : Message → Prop} (sends : x.Sends kind) (weaken : ∀ m, kind m → wider m) :
    x.Sends wider := by
  have widened {β : Type} {d : Dialogue β} {post : β → Unit → Prop} (ensured : d.Ensures (.only kind) () post) :
      d.Ensures (.only wider) () post := by
    induction d with
    | done b => exact ensured
    | send m next ih => exact ⟨weaken m ensured.1, fun reply _ _ => ih reply (ensured.2 reply () trivial)⟩
  exact widened sends

/-- The same for exchanges: what they add to the record is of the kind that they send. -/
theorem Sends.record {x : Exchange ε α} (sends : x.Sends kind) (past : List Event) :
    x.Ensures recorder past (fun _ now => Follows kind past now) fun _ now => Follows kind past now := by
  refine (Dialogue.record_follows sends past).mono ?_
  intro result now follows
  cases result <;> exact follows

theorem sends_pure (a : α) : (pure a : Exchange ε α).Sends kind := trivial

theorem sends_throw (e : ε) : (throw e : Exchange ε α).Sends kind := trivial

theorem sends_single {q : Statement} (read : Reply → Except ε α) (ofKind : kind (.statement q)) :
    (single q read).Sends kind := by
  simp [Sends, ensures_single, Peer.only, ofKind]

/-- The first exchange, and every way in which the second may go on, send messages of the kind. -/
theorem Sends.bind {x : Exchange ε α} {f : α → Exchange ε β} (first : x.Sends kind) (rest : ∀ a, (f a).Sends kind) :
    (x >>= f).Sends kind := by
  refine ensures_bind.2 (Dialogue.Ensures.mono first ?_)
  intro result now _
  cases result with
  | ok a => exact rest a
  | error e => trivial

theorem Sends.mapError {x : Exchange ε α} (sends : x.Sends kind) (f : ε → ε') : (x.mapError f).Sends kind :=
  ensures_mapError.2 sends

theorem sends_ite {c : Prop} [Decidable c] {x y : Exchange ε α} (yes : x.Sends kind) (no : y.Sends kind) :
    (if c then x else y).Sends kind := by
  split
  · exact yes
  · exact no

theorem sends_ofExcept (x : Except ε α) : (ofExcept x).Sends kind := by
  cases x <;> trivial

/-- What follows upon a check may use what the check has found. -/
theorem sends_checked {x : Except ε α} {f : α → Exchange ε β} (rest : ∀ a, x = .ok a → (f a).Sends kind) :
    (ofExcept x >>= f).Sends kind := by
  refine ensures_bind.2 (ensures_ofExcept.2 ⟨rest, fun _ _ => trivial⟩)

/-- A transaction adds the messages that open and close it to those of its work. -/
theorem Sends.transaction {ofStore : StoreError → ε} {work : Exchange ε α} (sends : work.Sends kind)
    (opens : kind .begin) (closes : kind .commit) (undoes : kind .rollback) :
    (transaction ofStore work).Sends kind := by
  have undo {post : Unit → Prop} (holds : post ()) : (Peer.only kind).Undoes () post := ⟨undoes, fun _ _ _ => holds⟩
  refine ensures_transaction.2 (Dialogue.ensures_settle.2 ⟨opens, fun opened _ _ => ⟨fun _ _ => undo trivial, fun _ => ?_⟩⟩)
  refine Dialogue.Ensures.mono sends fun result _ _ => ?_
  cases result with
  | error e => exact undo trivial
  | ok a => exact ⟨closes, fun closed _ _ => ⟨fun _ _ => undo trivial, fun _ => trivial⟩⟩

theorem sends_stored {x : Exchange StoreError α} (sends : x.Sends kind) : (Service.stored x).Sends kind := sends.mapError _

variable {q : Statement} (ofKind : kind (.statement q))
include ofKind

theorem sends_execute : (execute q).Sends kind := by
  rw [execute_eq_single]
  exact sends_single _ ofKind

theorem sends_fetchOptional (read : RowReader α) : (fetchOptional q read).Sends kind := by
  rw [fetchOptional_eq_single]
  exact sends_single _ ofKind

theorem sends_fetchOne (read : RowReader α) : (fetchOne q read).Sends kind := by
  rw [fetchOne_eq_single]
  exact sends_single _ ofKind

theorem sends_fetchAll (read : RowReader α) : (fetchAll q read).Sends kind := by
  unfold fetchAll
  rw [rowsOf_eq_single]
  exact (sends_single _ ofKind).bind fun _ => sends_ofExcept _

end Exchange
end AssetRegistry.Store
