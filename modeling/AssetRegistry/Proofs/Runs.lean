import AssetRegistry.Proofs.Record

namespace AssetRegistry.Store

namespace Dialogue
variable {α β γ : Type}

theorem bind_done (d : Dialogue α) : d.bind .done = d := by
  induction d with
  | done a => rfl
  | send m next ih => exact congrArg (send m) (funext ih)

theorem bind_bind (d : Dialogue α) (f : α → Dialogue β) (g : β → Dialogue γ) :
    (d.bind f).bind g = d.bind fun a => (f a).bind g := by
  induction d with
  | done a => rfl
  | send m next ih => exact congrArg (send m) (funext ih)

/-- No instance, so that automation elsewhere keeps the binds as they are written. -/
theorem lawful : LawfulMonad Dialogue := .mk' Dialogue bind_done (fun _ _ => rfl) bind_bind

end Dialogue

theorem Exchange.bind_bind {ε α β γ : Type} (x : Exchange ε α) (f : α → Exchange ε β) (g : β → Exchange ε γ) :
    x >>= f >>= g = x >>= fun a => f a >>= g :=
  have := Dialogue.lawful
  bind_assoc x f g

/-- The replies that are left after some messages. -/
def later (replies : Nat → Reply) (events : List Event) : Nat → Reply := fun i => replies (i + events.length)

/-- The replies that two parts have left are the ones that the second leaves of those that the first left. -/
theorem later_append (replies : Nat → Reply) (events more : List Event) :
    later (later replies events) more = later replies (events ++ more) := by
  funext i
  simp only [later, List.length_append]
  congr 1
  omega

/-- Every message in a run is of the kind that the dialogue sends. -/
theorem Dialogue.kind_of_mem {α : Type} {kind : Message → Prop} {d : Dialogue α} {within : α → Unit → Prop}
    (sends : d.Ensures (.only kind) () within) {replies : Nat → Reply} {e : Event}
    (member : e ∈ (d.against replies).1) : kind e.1 := by
  obtain ⟨sent, same, ofKind⟩ := Dialogue.Ensures.against (Dialogue.record_follows sends []) replies
  rw [List.nil_append, List.nil_append] at same
  exact ofKind e (same ▸ member)

theorem Exchange.Sends.mem {ε α : Type} {kind : Message → Prop} {x : Exchange ε α} (sends : x.Sends kind)
    {replies : Nat → Reply} {e : Event} (member : e ∈ (x.run.against replies).1) : kind e.1 :=
  Dialogue.kind_of_mem sends member

/-- A run of two dialogues: the second one goes on with the replies that the first has left. -/
theorem Dialogue.against_bind {α β : Type} (d : Dialogue α) (f : α → Dialogue β) (replies : Nat → Reply) :
    (d >>= f).against replies =
      ((d.against replies).1 ++ ((f (d.against replies).2).against (later replies (d.against replies).1)).1,
        ((f (d.against replies).2).against (later replies (d.against replies).1)).2) := by
  induction d generalizing replies with
  | done a => rfl
  | send m next ih =>
    have rest := ih (replies 0) fun i => replies (i + 1)
    have shifted : later (fun i => replies (i + 1)) ((next (replies 0)).against fun i => replies (i + 1)).1 =
        later replies ((Dialogue.send m next).against replies).1 := by
      funext i
      simp only [later, against, List.length_cons]
      congr 1
    rw [shifted] at rest
    show ((m, replies 0) :: (((next (replies 0)) >>= f).against fun i => replies (i + 1)).1,
      (((next (replies 0)) >>= f).against fun i => replies (i + 1)).2) = _
    rw [rest]
    rfl

theorem Dialogue.against_ask {α : Type} (m : Message) (f : Reply → Dialogue α) (replies : Nat → Reply) :
    (ask m >>= f).against replies =
      ((m, replies 0) :: ((f (replies 0)).against fun i => replies (i + 1)).1,
        ((f (replies 0)).against fun i => replies (i + 1)).2) := rfl

namespace Exchange
variable {ε ε' α β : Type} {replies : Nat → Reply}

/-- An exchange that succeeds hands its result and the replies left over to the next one. -/
theorem against_bind_ok {x : Exchange ε α} {f : α → Exchange ε β} {a : α}
    (succeeds : (x.run.against replies).2 = .ok a) :
    (x >>= f).run.against replies =
      ((x.run.against replies).1 ++ ((f a).run.against (later replies (x.run.against replies).1)).1,
        ((f a).run.against (later replies (x.run.against replies).1)).2) := by
  refine (Dialogue.against_bind x.run _ replies).trans ?_
  rw [succeeds]
  rfl

/-- An exchange that fails ends the whole, and nothing more is sent. -/
theorem against_bind_error {x : Exchange ε α} {f : α → Exchange ε β} {e : ε}
    (fails : (x.run.against replies).2 = .error e) :
    (x >>= f).run.against replies = ((x.run.against replies).1, .error e) := by
  refine (Dialogue.against_bind x.run _ replies).trans ?_
  rw [fails]
  simp [ExceptT.bindCont, pure, Dialogue.against]

@[simp] theorem against_single (q : Statement) (read : Reply → Except ε α) :
    (single q read).run.against replies = ([(.statement q, replies 0)], read (replies 0)) := rfl

theorem mapError_single (q : Statement) (read : Reply → Except ε α) (f : ε → ε') :
    (single q read).mapError f = single q fun reply => (read reply).mapError f := by
  refine congrArg (fun next => ExceptT.mk (Dialogue.send (.statement q) next)) (funext fun reply => ?_)
  cases read reply <;> rfl

theorem against_single_ok {q : Statement} {read : Reply → Except ε α} {f : α → Exchange ε β} {a : α}
    (reads : read (replies 0) = .ok a) :
    (single q read >>= f).run.against replies =
      ((.statement q, replies 0) :: ((f a).run.against fun i => replies (i + 1)).1,
        ((f a).run.against fun i => replies (i + 1)).2) :=
  against_bind_ok (x := single q read) reads

theorem against_single_error {q : Statement} {read : Reply → Except ε α} {f : α → Exchange ε β} {e : ε}
    (reads : read (replies 0) = .error e) :
    (single q read >>= f).run.against replies = ([(.statement q, replies 0)], .error e) :=
  against_bind_error (x := single q read) reads

@[simp] theorem against_ofExcept (x : Except ε α) : (ofExcept x).run.against replies = ([], x) := rfl

theorem against_pure (a : α) : (pure a : Exchange ε α).run.against replies = ([], .ok a) := rfl

theorem against_throw (e : ε) : (throw e : Exchange ε α).run.against replies = ([], .error e) := rfl

@[simp] theorem against_mapError (x : Exchange ε α) (f : ε → ε') :
    (x.mapError f).run.against replies = ((x.run.against replies).1, (x.run.against replies).2.mapError f) := by
  refine (Dialogue.against_bind x.run _ replies).trans ?_
  cases (x.run.against replies).2 with
  | error e => exact Prod.ext (List.append_nil _) rfl
  | ok a => exact Prod.ext (List.append_nil _) rfl

end Exchange

/-- An exchange that goes on as a dialogue's end tells, and what comes after both. -/
theorem Exchange.against_resume {ε α β γ : Type} (d : Dialogue γ) (k : γ → Exchange ε α) (f : α → Exchange ε β)
    (replies : Nat → Reply) :
    (ExceptT.mk (d >>= fun c => (k c).run) >>= f : Exchange ε β).run.against replies =
      ((d.against replies).1 ++
          ((k (d.against replies).2 >>= f).run.against (later replies (d.against replies).1)).1,
        ((k (d.against replies).2 >>= f).run.against (later replies (d.against replies).1)).2) := by
  have resumed := Dialogue.against_bind d (fun c => (k c).run) replies
  cases result : ((k (d.against replies).2).run.against (later replies (d.against replies).1)).2 with
  | error e =>
    rw [against_bind_error result, against_bind_error (by rw [ExceptT.run_mk, resumed, result]), ExceptT.run_mk, resumed]
  | ok a =>
    rw [against_bind_ok result, against_bind_ok (by rw [ExceptT.run_mk, resumed, result]), ExceptT.run_mk, resumed,
      later_append, List.append_assoc]

/-- The runs of a transaction: it is not begun, its work fails, it is not committed, or it is committed. -/
inductive Settles {ε α : Type} (work : Exchange ε α) : List Event → Settled ε α → Prop
  | notBegun (fault : Fault) (undone : Reply) :
      Settles work [(.begin, .failed fault), (.rollback, undone)] (.refused (.ofFault fault))
  | withdrawn {opened : Reply} {replies : Nat → Reply} {e : ε} (undone : Reply) : opened.isFailed = false →
      (work.run.against replies).2 = .error e →
      Settles work ((.begin, opened) :: ((work.run.against replies).1 ++ [(.rollback, undone)])) (.withdrawn e)
  | notCommitted {opened : Reply} {replies : Nat → Reply} {a : α} (fault : Fault) (undone : Reply) :
      opened.isFailed = false → (work.run.against replies).2 = .ok a →
      Settles work
        ((.begin, opened) :: ((work.run.against replies).1 ++ [(.commit, .failed fault), (.rollback, undone)]))
        (.refused (.ofFault fault))
  | committed {opened closed : Reply} {replies : Nat → Reply} {a : α} : opened.isFailed = false →
      (work.run.against replies).2 = .ok a → closed.isFailed = false →
      Settles work ((.begin, opened) :: ((work.run.against replies).1 ++ [(.commit, closed)])) (.committed a)

/-- The work has succeeded, so all that is left to see is whether the commit does. -/
theorem Dialogue.settles_closed {ε α : Type} {work : Exchange ε α} {opened : Reply} (begun : opened.isFailed = false)
    {replies rest : Nat → Reply} {a : α} (succeeds : (work.run.against replies).2 = .ok a)
    {closing : Dialogue (Settled ε α)}
    (closes : closing = do
      match ← ask .commit with
      | .failed fault =>
        let _ ← ask .rollback
        pure (.refused (.ofFault fault))
      | _ => pure (.committed a)) :
    Settles work ((.begin, opened) :: ((work.run.against replies).1 ++ (closing.against rest).1))
      (closing.against rest).2 := by
  subst closes
  rw [against_ask]
  cases closed : rest 0 with
  | failed fault => exact .notCommitted fault _ begun succeeds
  | rows found => exact .committed begun succeeds rfl
  | affected count => exact .committed begun succeeds rfl

/-- The transaction has begun, so what counts is how its work ends. -/
theorem Dialogue.settles_begun {ε α : Type} {work : Exchange ε α} {opened : Reply} (begun : opened.isFailed = false)
    (replies : Nat → Reply) {working : Dialogue (Settled ε α)}
    (works : working = do
      match ← work.run with
      | .error e =>
        let _ ← ask .rollback
        pure (.withdrawn e)
      | .ok a =>
        match ← ask .commit with
        | .failed fault =>
          let _ ← ask .rollback
          pure (.refused (.ofFault fault))
        | _ => pure (.committed a)) :
    Settles work ((.begin, opened) :: (working.against replies).1) (working.against replies).2 := by
  subst works
  rw [against_bind]
  cases result : (work.run.against replies).2 with
  | error e => exact .withdrawn _ begun result
  | ok a => exact settles_closed begun result rfl

/-- Every run of a transaction is one of the four that `Settles` lists. -/
theorem Dialogue.settles {ε α : Type} (work : Exchange ε α) (replies : Nat → Reply) :
    Settles work ((settle work).against replies).1 ((settle work).against replies).2 := by
  unfold settle
  rw [against_ask]
  cases replies 0 with
  | failed fault => exact .notBegun fault _
  | rows found => exact settles_begun rfl _ rfl
  | affected count => exact settles_begun rfl _ rfl

/-- The result of a transaction that ended so. -/
def Settled.result {ε α : Type} (ofStore : StoreError → ε) : Settled ε α → Except ε α
  | .committed a => .ok a
  | .withdrawn e => .error e
  | .refused e => .error (ofStore e)

/-- A transaction sends what settles it, and its result is read off how it was settled. -/
theorem Exchange.against_transaction {ε α : Type} (ofStore : StoreError → ε) (work : Exchange ε α)
    (replies : Nat → Reply) :
    (transaction ofStore work).run.against replies =
      (((settle work).against replies).1, ((settle work).against replies).2.result ofStore) := by
  refine (Dialogue.against_bind (settle work) _ replies).trans ?_
  cases ((settle work).against replies).2 <;> simp [Settled.result, pure, Dialogue.against]

/-- A peer that answers anything and remembers everything, and accepts what a rule allows after the past. -/
def Peer.ruled (rule : List Event → Message → Prop) : Peer (List Event) where
  accepts past m := rule past m
  answers past m reply now := now = past ++ [(m, reply)]

/-- A message in a run keeps the rule for all that was said before it. -/
theorem Dialogue.Ensures.ruled {α : Type} {rule : List Event → Message → Prop} {d : Dialogue α} {past : List Event}
    {post : α → List Event → Prop} (ensured : d.Ensures (.ruled rule) past post) {replies : Nat → Reply}
    {before after : List Event} {m : Message} {reply : Reply}
    (occurs : (d.against replies).1 = before ++ (m, reply) :: after) : rule (past ++ before) m := by
  induction d generalizing past replies before with
  | done a => cases before <;> cases occurs
  | send sent next ih =>
    cases before with
    | nil =>
      obtain ⟨same, -⟩ := List.cons.inj occurs
      rw [List.append_nil, ← (Prod.mk.inj same).1]
      exact ensured.1
    | cons first earlier =>
      obtain ⟨rfl, rest⟩ := List.cons.inj occurs
      have kept := ih (replies 0) (ensured.2 (replies 0) _ rfl) rest
      rwa [List.append_assoc] at kept

/-- An exchange keeps to a rule, whatever has been sent before it. -/
def Exchange.Obeys {ε α : Type} (rule : List Event → Message → Prop) (x : Exchange ε α) : Prop :=
  ∀ past, x.Ensures (.ruled rule) past (fun _ _ => True) fun _ _ => True

namespace Exchange
variable {ε ε' α β : Type} {rule : List Event → Message → Prop}

theorem Obeys.ruled {x : Exchange ε α} (obeys : x.Obeys rule) {replies : Nat → Reply} {before after : List Event}
    {m : Message} {reply : Reply} (occurs : (x.run.against replies).1 = before ++ (m, reply) :: after) : rule before m :=
  Dialogue.Ensures.ruled (obeys []) occurs

/-- A kind whose messages are always allowed keeps the rule. -/
theorem Sends.obeys {kind : Message → Prop} {x : Exchange ε α} (sends : x.Sends kind)
    (allowed : ∀ past m, kind m → rule past m) : x.Obeys rule := by
  have obeyed {β : Type} {d : Dialogue β} {within : β → Unit → Prop} (sends : d.Ensures (.only kind) () within)
      (past : List Event) : d.Ensures (.ruled rule) past fun _ _ => True := by
    induction d generalizing past with
    | done b => trivial
    | send m next ih =>
      exact ⟨allowed past m sends.1, fun reply past _ => ih reply (sends.2 reply () trivial) past⟩
  intro past
  exact (obeyed sends past).mono fun result _ _ => by cases result <;> trivial

theorem obeys_pure (a : α) : (pure a : Exchange ε α).Obeys rule := fun _ => trivial

theorem obeys_throw (e : ε) : (throw e : Exchange ε α).Obeys rule := fun _ => trivial

theorem obeys_fetchOptional {q : Statement} (allowed : ∀ past, rule past (.statement q)) (read : RowReader α) :
    (fetchOptional q read).Obeys rule := by
  intro past
  rw [fetchOptional_eq_single]
  exact ensures_single.2 ⟨allowed past, fun _ _ _ => ⟨fun _ _ => trivial, fun _ _ => trivial⟩⟩

theorem Obeys.bind {x : Exchange ε α} {f : α → Exchange ε β} (first : x.Obeys rule) (rest : ∀ a, (f a).Obeys rule) :
    (x >>= f).Obeys rule := by
  refine fun past => ensures_bind.2 ((first past).mono fun result now _ => ?_)
  cases result with
  | ok a => exact rest a now
  | error e => trivial

theorem Obeys.mapError {x : Exchange ε α} (obeys : x.Obeys rule) (f : ε → ε') : (x.mapError f).Obeys rule :=
  fun past => ensures_mapError.2 (obeys past)

theorem obeys_ite {c : Prop} [Decidable c] {x y : Exchange ε α} (yes : x.Obeys rule) (no : y.Obeys rule) :
    (if c then x else y).Obeys rule := by
  split
  · exact yes
  · exact no

/-- A rule need only be kept behind a check that has passed. -/
theorem obeys_checked {x : Except ε α} {f : α → Exchange ε β} (rest : ∀ a, x = .ok a → (f a).Obeys rule) :
    (ofExcept x >>= f).Obeys rule :=
  fun past => ensures_bind.2 (ensures_ofExcept.2 ⟨fun a found => rest a found past, fun _ _ => trivial⟩)

variable (opens : ∀ past, rule past .begin) (closes : ∀ past, rule past .commit) (undoes : ∀ past, rule past .rollback)
include opens closes undoes

/-- A transaction keeps a rule that its work keeps, where its beginning and its end are allowed. -/
theorem Obeys.settle {work : Exchange ε α} (obeys : work.Obeys rule) (past : List Event) :
    (settle work).Ensures (.ruled rule) past fun _ _ => True := by
  have undo (past : List Event) : (Peer.ruled rule).Undoes past fun _ => True := ⟨undoes past, fun _ _ _ => trivial⟩
  refine Dialogue.ensures_settle.2 ⟨opens past, fun opened begun _ => ⟨fun _ _ => undo begun, fun _ => ?_⟩⟩
  refine (obeys begun).mono fun result done _ => ?_
  cases result with
  | error e => exact undo done
  | ok a => exact ⟨closes done, fun closed last _ => ⟨fun _ _ => undo last, fun _ => trivial⟩⟩

theorem Obeys.transaction {ofStore : StoreError → ε} {work : Exchange ε α} (obeys : work.Obeys rule) :
    (transaction ofStore work).Obeys rule := by
  refine fun past => ensures_transaction.2 ((obeys.settle opens closes undoes past).mono fun ended _ _ => ?_)
  cases ended <;> trivial

end Exchange
end AssetRegistry.Store
