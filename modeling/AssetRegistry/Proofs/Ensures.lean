import AssetRegistry.Catalogue.Register
import AssetRegistry.Service.Operation

namespace AssetRegistry

theorem ok_bind {ε α β : Type} (a : α) (f : α → Except ε β) : (Except.ok a >>= f) = f a := rfl

theorem ok_of_bind {ε α β : Type} {x : Except ε α} {f : α → Except ε β} {b : β} (result : (x >>= f) = .ok b) :
    ∃ a, x = .ok a ∧ f a = .ok b := by
  cases x with
  | error e => cases result
  | ok a => exact ⟨a, rfl, result⟩

theorem ok_of_map {ε α β : Type} {x : Except ε α} {f : α → β} {b : β} (result : x.map f = .ok b) :
    ∃ a, x = .ok a ∧ f a = b := by
  cases x with
  | error e => cases result
  | ok a => exact ⟨a, rfl, Except.ok.inj result⟩

theorem error_of_map {ε α β : Type} {x : Except ε α} {f : α → β} {e : ε} (result : x.map f = .error e) :
    x = .error e := by
  cases x with
  | error e' => exact congrArg Except.error (Except.error.inj result)
  | ok a => cases result

theorem ok_of_mapError {ε ε' α : Type} {x : Except ε α} {f : ε → ε'} {a : α} (result : x.mapError f = .ok a) :
    x = .ok a := by
  cases x with
  | error e => cases result
  | ok b => exact congrArg Except.ok (Except.ok.inj result)

theorem mapError_eq_ok_iff {ε ε' α : Type} {x : Except ε α} {f : ε → ε'} {a : α} : x.mapError f = .ok a ↔ x = .ok a := by
  refine ⟨ok_of_mapError, ?_⟩
  rintro rfl
  rfl

end AssetRegistry

namespace AssetRegistry.Store

/-- The other side of a dialogue: what it accepts in a state, and how it may answer and go on. -/
structure Peer (σ : Type) where
  accepts : σ → Message → Prop
  answers : σ → Message → Reply → σ → Prop

/-- The peer accepts all that is sent, whatever it answers, and the end is as wanted. -/
def Dialogue.Ensures {σ α : Type} (peer : Peer σ) : Dialogue α → σ → (α → σ → Prop) → Prop
  | .done a, s, post => post a s
  | .send m next, s, post =>
    peer.accepts s m ∧ ∀ reply s', peer.answers s m reply s' → (next reply).Ensures peer s' post

namespace Dialogue
variable {σ α β : Type} {peer : Peer σ}

/-- What two dialogues ensure one after the other, the first one ensures of how the second goes on. -/
theorem ensures_bind {d : Dialogue α} {f : α → Dialogue β} {s : σ} {post : β → σ → Prop} :
    (d >>= f).Ensures peer s post ↔ d.Ensures peer s fun a s' => (f a).Ensures peer s' post := by
  induction d generalizing s with
  | done a => rfl
  | send m next ih =>
    refine and_congr_right fun _ => forall_congr' fun reply => forall_congr' fun s' => ?_
    exact imp_congr_right fun _ => ih reply

/-- A message must be one that the peer takes, and the rest must hold for every reply that the peer may give. -/
theorem ensures_ask {m : Message} {f : Reply → Dialogue β} {s : σ} {post : β → σ → Prop} :
    (ask m >>= f).Ensures peer s post ↔
      peer.accepts s m ∧ ∀ reply s', peer.answers s m reply s' → (f reply).Ensures peer s' post :=
  ensures_bind

theorem Ensures.mono {d : Dialogue α} {s : σ} {post wider : α → σ → Prop} (ensured : d.Ensures peer s post)
    (weaken : ∀ a s', post a s' → wider a s') : d.Ensures peer s wider := by
  induction d generalizing s with
  | done a => exact weaken a s ensured
  | send m next ih => exact ⟨ensured.1, fun reply s' answered => ih reply (ensured.2 reply s' answered)⟩

end Dialogue

/-- What an exchange ensures, with one end for results and one for errors. -/
def Exchange.Ensures {σ ε α : Type} (peer : Peer σ) (x : Exchange ε α) (s : σ) (ok : α → σ → Prop)
    (error : ε → σ → Prop) : Prop :=
  x.run.Ensures peer s fun result s' =>
    match result with
    | .ok a => ok a s'
    | .error e => error e s'

namespace Exchange
variable {σ ε ε' α β : Type} {peer : Peer σ} {s : σ}

@[simp] theorem ensures_pure {a : α} {ok : α → σ → Prop} {error : ε → σ → Prop} :
    (pure a : Exchange ε α).Ensures peer s ok error ↔ ok a s := Iff.rfl

@[simp] theorem ensures_throw {e : ε} {ok : α → σ → Prop} {error : ε → σ → Prop} :
    (throw e : Exchange ε α).Ensures peer s ok error ↔ error e s := Iff.rfl

/-- An exchange that fails sends nothing more, so its error must be one that the whole may end with. -/
@[simp] theorem ensures_bind {x : Exchange ε α} {f : α → Exchange ε β} {ok : β → σ → Prop} {error : ε → σ → Prop} :
    (x >>= f).Ensures peer s ok error ↔
      x.Ensures peer s (fun a s' => (f a).Ensures peer s' ok error) error := by
  refine Dialogue.ensures_bind.trans (iff_of_eq ?_)
  unfold Exchange.Ensures
  congr 1
  funext result s'
  cases result <;> rfl

@[simp] theorem ensures_ite {c : Prop} [Decidable c] {x y : Exchange ε α} {ok : α → σ → Prop} {error : ε → σ → Prop} :
    (if c then x else y).Ensures peer s ok error ↔
      (c → x.Ensures peer s ok error) ∧ (¬c → y.Ensures peer s ok error) := by
  by_cases holds : c <;> simp [holds]

@[simp] theorem ensures_mapError {f : ε → ε'} {x : Exchange ε α} {ok : α → σ → Prop} {error : ε' → σ → Prop} :
    (x.mapError f).Ensures peer s ok error ↔ x.Ensures peer s ok fun e s' => error (f e) s' := by
  refine Dialogue.ensures_bind.trans (iff_of_eq ?_)
  unfold Exchange.Ensures
  congr 1
  funext result s'
  cases result <;> rfl

/-- What is found out without the store leaves the peer where it was. -/
@[simp] theorem ensures_ofExcept {x : Except ε α} {ok : α → σ → Prop} {error : ε → σ → Prop} :
    (ofExcept x).Ensures peer s ok error ↔
      (∀ a, x = .ok a → ok a s) ∧ ∀ e, x = .error e → error e s := by
  cases x <;> simp [ofExcept, Exchange.Ensures, Dialogue.Ensures, pure]

@[simp] theorem ensures_stored {x : Exchange StoreError α} {ok : α → σ → Prop} {error : ServiceError → σ → Prop} :
    (Service.stored x).Ensures peer s ok error ↔ x.Ensures peer s ok fun e s' => error (.ofStore e) s' :=
  ensures_mapError

/-- One statement, whose reply is read. -/
def single (q : Statement) (read : Reply → Except ε α) : Exchange ε α :=
  ExceptT.mk (.send (.statement q) fun reply => .done (read reply))

/-- One statement: the peer takes it, and every reply of the peer is read well or refused well. -/
@[simp] theorem ensures_single {q : Statement} {read : Reply → Except ε α} {ok : α → σ → Prop} {error : ε → σ → Prop} :
    (single q read).Ensures peer s ok error ↔
      peer.accepts s (.statement q) ∧ ∀ reply s', peer.answers s (.statement q) reply s' →
        (∀ a, read reply = .ok a → ok a s') ∧ ∀ e, read reply = .error e → error e s' := by
  refine and_congr_right fun _ => forall_congr' fun reply => forall_congr' fun s' => imp_congr_right fun _ => ?_
  dsimp only [Dialogue.Ensures]
  cases read reply <;> simp

end Exchange

/-- The store reports a fault. -/
def Reply.isFailed : Reply → Bool
  | .failed _ => true
  | _ => false

/-- The rows of a reply. A count stands for no rows. -/
def Reply.toRows : Reply → Except StoreError (List Row)
  | .rows found => .ok found
  | .affected _ => .ok []
  | .failed fault => .error (.ofFault fault)

/-- The number of rows that a reply speaks of. -/
def Reply.toCount : Reply → Except StoreError Nat
  | .rows found => .ok found.length
  | .affected count => .ok count
  | .failed fault => .error (.ofFault fault)

/-- The first row of a reply, if there is one. -/
def Reply.first? {α : Type} (read : RowReader α) : Reply → Except StoreError (Option α)
  | .rows (row :: _) => ((read row).map some).mapError .ofClient
  | .failed fault => .error (.ofFault fault)
  | _ => .ok none

/-- The first row of a reply, which has to be there. -/
def Reply.first {α : Type} (read : RowReader α) : Reply → Except StoreError α
  | .rows (row :: _) => (read row).mapError .ofClient
  | .failed fault => .error (.ofFault fault)
  | _ => .error (.ofClient .rowNotFound)

/-- The ways to send a statement differ only in how they read the reply. -/
@[simp] theorem rowsOf_eq_single (q : Statement) : rowsOf q = .single q Reply.toRows := by
  show ExceptT.mk (Dialogue.send _ _) = _
  unfold Exchange.single
  congr 2
  funext reply
  cases reply <;> rfl

@[simp] theorem execute_eq_single (q : Statement) : execute q = .single q Reply.toCount := by
  show ExceptT.mk (Dialogue.send _ _) = _
  unfold Exchange.single
  congr 2
  funext reply
  cases reply <;> rfl

@[simp] theorem fetchOptional_eq_single {α : Type} (q : Statement) (read : RowReader α) :
    fetchOptional q read = .single q (Reply.first? read) := by
  unfold fetchOptional
  rw [rowsOf_eq_single]
  show ExceptT.mk (Dialogue.send _ _) = _
  unfold Exchange.single
  congr 2
  funext reply
  rcases reply with (_ | ⟨row, rest⟩) | count | fault
  · rfl
  · dsimp only [Reply.first?]
    show Dialogue.bind (Dialogue.bind (.done ((read row).mapError StoreError.ofClient)) _) _ = _
    cases read row <;> rfl
  · rfl
  · rfl

@[simp] theorem fetchOne_eq_single {α : Type} (q : Statement) (read : RowReader α) :
    fetchOne q read = .single q (Reply.first read) := by
  unfold fetchOne
  rw [rowsOf_eq_single]
  show ExceptT.mk (Dialogue.send _ _) = _
  unfold Exchange.single
  congr 2
  funext reply
  rcases reply with (_ | ⟨row, rest⟩) | count | fault <;> rfl

/-- What the lookup and the insertion keep is kept by doing one after the other. -/
theorem Exchange.ensures_findOrInsert {σ α : Type} {peer : Peer σ} {kept : σ → Prop} {find insert : Statement}
    {read : RowReader α} {missing : StoreError}
    (finds : ∀ s, kept s → (single find (Reply.first? read)).Ensures peer s (fun _ => kept) fun _ => kept)
    (inserts : ∀ s, kept s → (single insert (Reply.first? read)).Ensures peer s (fun _ => kept) fun _ => kept)
    {s : σ} (start : kept s) :
    (findOrInsert find insert read missing).Ensures peer s (fun _ => kept) fun _ => kept := by
  unfold findOrInsert
  rw [fetchOptional_eq_single, fetchOptional_eq_single, ensures_bind]
  refine Dialogue.Ensures.mono (finds s start) ?_
  rintro (e | found) s still
  · exact still
  cases found with
  | some a => exact still
  | none =>
    refine ensures_bind.2 (Dialogue.Ensures.mono (inserts s still) ?_)
    rintro (e | inserted) s still
    · exact still
    cases inserted with
    | some a => exact still
    | none =>
      refine ensures_bind.2 (Dialogue.Ensures.mono (finds s still) ?_)
      rintro (e | again) s still
      · exact still
      cases again with
      | some a => exact still
      | none => exact still

/-- The peer takes a rollback, and afterwards the end is as wanted. -/
def Peer.Undoes {σ : Type} (peer : Peer σ) (s : σ) (post : σ → Prop) : Prop :=
  peer.accepts s .rollback ∧ ∀ reply s', peer.answers s .rollback reply s' → post s'

theorem Dialogue.ensures_undo {σ α : Type} {peer : Peer σ} {s : σ} {a : α} {post : α → σ → Prop} :
    (do let _ ← ask .rollback; pure a : Dialogue α).Ensures peer s post ↔ peer.Undoes s (post a) := Iff.rfl

/-- The end of a transaction whose work is done: a commit, and a rollback if that fails. -/
theorem Dialogue.ensures_close {σ ε α : Type} {peer : Peer σ} {s : σ} {a : α} {post : Settled ε α → σ → Prop} :
    (do
      match ← ask .commit with
      | .failed fault =>
        let _ ← ask .rollback
        pure (.refused (.ofFault fault))
      | _ => pure (.committed a) : Dialogue (Settled ε α)).Ensures peer s post ↔
      peer.accepts s .commit ∧ ∀ reply s', peer.answers s .commit reply s' →
        (∀ fault, reply = .failed fault → peer.Undoes s' (post (.refused (.ofFault fault)))) ∧
        ((∀ fault, reply ≠ .failed fault) → post (.committed a) s') := by
  refine ensures_ask.trans ?_
  refine and_congr_right fun _ => forall_congr' fun reply => forall_congr' fun s' => imp_congr_right fun _ => ?_
  cases reply with
  | failed fault => simp [ensures_undo]
  | rows found => simp [Dialogue.Ensures, pure]
  | affected count => simp [Dialogue.Ensures, pure]

/-- A transaction that has begun, up to its end. -/
theorem Dialogue.ensures_work {σ ε α : Type} {peer : Peer σ} {s : σ} {work : Exchange ε α}
    {post : Settled ε α → σ → Prop} :
    (do
      match ← work.run with
      | .error e =>
        let _ ← ask .rollback
        pure (.withdrawn e)
      | .ok a =>
        match ← ask .commit with
        | .failed fault =>
          let _ ← ask .rollback
          pure (.refused (.ofFault fault))
        | _ => pure (.committed a) : Dialogue (Settled ε α)).Ensures peer s post ↔
      work.Ensures peer s
        (fun a s' => peer.accepts s' .commit ∧ ∀ closed s'', peer.answers s' .commit closed s'' →
          (∀ fault, closed = .failed fault → peer.Undoes s'' (post (.refused (.ofFault fault)))) ∧
          ((∀ fault, closed ≠ .failed fault) → post (.committed a) s''))
        (fun e s' => peer.Undoes s' (post (.withdrawn e))) := by
  refine ensures_bind.trans (iff_of_eq ?_)
  unfold Exchange.Ensures
  congr 1
  funext result s'
  cases result with
  | error e => rfl
  | ok a => exact propext ensures_close

/-- A transaction has four ends: it is not begun, its work fails, it is not committed, or it is committed. All but the
last one are reached by a rollback. -/
theorem Dialogue.ensures_settle {σ ε α : Type} {peer : Peer σ} {s : σ} {work : Exchange ε α}
    {post : Settled ε α → σ → Prop} :
    (settle work).Ensures peer s post ↔
      peer.accepts s .begin ∧ ∀ opened s', peer.answers s .begin opened s' →
        (∀ fault, opened = .failed fault → peer.Undoes s' (post (.refused (.ofFault fault)))) ∧
        ((∀ fault, opened ≠ .failed fault) →
          work.Ensures peer s'
            (fun a s'' => peer.accepts s'' .commit ∧ ∀ closed last, peer.answers s'' .commit closed last →
              (∀ fault, closed = .failed fault → peer.Undoes last (post (.refused (.ofFault fault)))) ∧
              ((∀ fault, closed ≠ .failed fault) → post (.committed a) last))
            (fun e s'' => peer.Undoes s'' (post (.withdrawn e)))) := by
  refine ensures_ask.trans ?_
  refine and_congr_right fun _ => forall_congr' fun opened => forall_congr' fun s' => imp_congr_right fun _ => ?_
  cases opened with
  | failed fault => simp [ensures_undo]
  | rows found =>
    refine ensures_work.trans ?_
    simp
  | affected count =>
    refine ensures_work.trans ?_
    simp

/-- What a transaction ensures is told by how it is settled. -/
theorem Exchange.ensures_transaction {σ ε α : Type} {peer : Peer σ} {s : σ} {ofStore : StoreError → ε}
    {work : Exchange ε α} {ok : α → σ → Prop} {error : ε → σ → Prop} :
    (transaction ofStore work).Ensures peer s ok error ↔
      (settle work).Ensures peer s fun ended s' =>
        match ended with
        | .committed a => ok a s'
        | .withdrawn e => error e s'
        | .refused e => error (ofStore e) s' := by
  refine Dialogue.ensures_bind.trans (iff_of_eq ?_)
  congr 1
  funext ended s'
  cases ended <;> rfl

end AssetRegistry.Store
