import AssetRegistry.Proofs.Invariant
import AssetRegistry.Proofs.Repertoire
import AssetRegistry.Proofs.Targets

namespace AssetRegistry

/-- The row after an update: the columns that are given replace the old ones. -/
def NewAsset.patched (row : NewAsset) (p : AssetPatch) : NewAsset :=
  { row with
    serialNo := p.serialNo.getD row.serialNo
    ownedBy := p.ownedBy.getD row.ownedBy
    purchasedDate := p.purchasedDate.getD row.purchasedDate
    warrantyStart := p.warrantyStart <|> row.warrantyStart
    warrantyEnd := p.warrantyEnd <|> row.warrantyEnd }

namespace Store

/-- The row that an update writes, if there is a live one. -/
def Table.patched (t : Table NewAsset) (id : Uuid) (p : AssetPatch) : Table NewAsset :=
  match t.live? id with
  | some row => .singleton id { row with data := row.data.patched p }
  | none => ∅

theorem Table.lookup_patched_eq_some {t : Table NewAsset} {id other : Uuid} {p : AssetPatch} {row : Stored NewAsset} :
    (t.patched id p).lookup other = some row ↔
      other = id ∧ ∃ old, t.live? id = some old ∧ row = { old with data := old.data.patched p } := by
  unfold patched
  cases found : t.live? id with
  | none => simp
  | some old =>
    rw [lookup_singleton]
    by_cases same : other = id <;> simp [same, eq_comm]

namespace Tables

/-- What a statement answers, the update of an asset included. -/
def reply (t : Tables) (new : Supply) : Statement → Reply
  | .updateAsset id _ _ => .affected (t.assets.live? id).toList.length
  | q => t.answer new q

/-- The rows that a statement writes, the update of an asset included. -/
def effect (t : Tables) (new : Supply) : Statement → Tables
  | .updateAsset id patch _ => { assets := t.assets.patched id patch }
  | q => t.written new q

theorem effect_of_reading {q : Statement} (reads : q.write? = none) (t : Tables) (new : Supply) :
    t.effect new q = ∅ := by
  cases q <;> first | rfl | cases reads

end Tables

/-- How a message is carried out where assets are updated. -/
def Session.respond (s : Session) (new : Supply) : Message → Reply × Session
  | .statement q =>
    (s.view.reply new q,
      match s.opened with
      | some t => { s with opened := some (t.extend (s.view.effect new q) none) }
      | none => { s with committed := s.view.effect new q ∪ s.committed })
  | m => s.react new m

namespace State

/-- Another transaction has written the row that the statement is to change, and has not ended yet. -/
def Waits (s : State) (i : Nat) : Statement → Prop
  | .updateAsset id _ _ =>
    ((s.session i).view.assets.live? id).isSome ∧ ∃ j t, j ≠ i ∧ s.opened j = some t ∧ id ∈ t.written.assets
  | _ => False

/-- The reply that a connection may get to a message, and what it sees of the store afterwards. Anything may fail at any
time; a commit that fails may have been carried out all the same. -/
inductive Responds (s : State) (i : Nat) : Message → Reply → Session → Prop
  | takes {m : Message} (new : Supply) : (∀ q, m = .statement q → s.Fresh new q ∧ ¬s.Waits i q) →
      Responds s i m ((s.session i).respond new m).1 ((s.session i).respond new m).2
  | refuses {m : Message} (fault : Fault) : Responds s i m (.failed fault) ((s.session i).refuse m)
  | loses (new : Supply) (fault : Fault) : Responds s i .commit (.failed fault) ((s.session i).respond new .commit).2

end State

open Service

/-- A call that registers or updates an asset. -/
def InUpkeep : Mutation → Prop
  | .createAsset _ _ | .updateAsset _ _ _ => True
  | _ => False

/-- A call that is being carried out, with what is still to be sent for it. -/
structure Job where
  call : Mutation
  program : Dialogue Unit

/-- The store, and what each connection is busy with. -/
structure Traffic where
  state : State
  jobs : Nat → Option Job

namespace Traffic

/-- One connection sees the store so now, and is busy with the job. -/
def put (s : Traffic) (i : Nat) (x : Session) (job : Option Job) : Traffic where
  state := s.state.put i x
  jobs := Function.update s.jobs i job

theorem put_jobs (s : Traffic) (i : Nat) (x : Session) (job : Option Job) (j : Nat) :
    (s.put i x job).jobs j = if j = i then job else s.jobs j := Function.update_apply _ _ _ _

theorem put_opened (s : Traffic) (i : Nat) (x : Session) (job : Option Job) (j : Nat) :
    (s.put i x job).state.opened j = if j = i then x.opened else s.state.opened j := Function.update_apply _ _ _ _

/-- One thing that happens: a call is begun if it is admitted, a message is answered, a call ends, or a call is dropped
and its transaction undone. -/
inductive Step (admits : Traffic → Mutation → Prop) : Traffic → Traffic → Prop
  | call {s : Traffic} (i : Nat) (m : Mutation) : s.jobs i = none → InUpkeep m → admits s m →
      Step admits s (s.put i (s.state.session i) (some { call := m, program := callDialogue m }))
  | exchange {s : Traffic} (i : Nat) {call : Mutation} {m : Message} {next : Reply → Dialogue Unit} {reply : Reply}
      {after : Session} : s.jobs i = some { call, program := .send m next } → s.state.Responds i m reply after →
      Step admits s (s.put i after (some { call, program := next reply }))
  | finish {s : Traffic} (i : Nat) {call : Mutation} : s.jobs i = some { call, program := .done () } →
      Step admits s (s.put i (s.state.session i) none)
  | drop {s : Traffic} (i : Nat) : Step admits s (s.put i { s.state.session i with opened := none } none)

/-- Nobody is calling. -/
def idle (committed : Tables) : Traffic where
  state := { committed, opened := fun _ => none }
  jobs _ := none

/-- What can be reached in any order of steps. -/
inductive Reachable (admits : Traffic → Mutation → Prop) (initial : Tables) : Traffic → Prop
  | idle : Reachable admits initial (idle initial)
  | step {s s' : Traffic} : Reachable admits initial s → Step admits s s' → Reachable admits initial s'

/-- What is reached while no connection but one has a transaction open. -/
def Alone (admits : Traffic → Mutation → Prop) (initial : Tables) (i : Nat) (s : Traffic) : Prop :=
  Reachable admits initial s ∧ ∀ j, j ≠ i → s.state.opened j = none

namespace Alone
variable {admits : Traffic → Mutation → Prop} {initial : Tables} {i : Nat} {s : Traffic}

theorem idle (i : Nat) : Alone admits initial i (idle initial) := ⟨.idle, fun _ _ => rfl⟩

theorem call (alone : Alone admits initial i s) (j : Nat) {m : Mutation} (free : s.jobs j = none) (upkeep : InUpkeep m)
    (admitted : admits s m) :
    Alone admits initial i (s.put j (s.state.session j) (some { call := m, program := callDialogue m })) := by
  refine ⟨alone.1.step (.call j m free upkeep admitted), fun k differ => ?_⟩
  rw [put_opened]
  split
  · next here =>
    rw [← here]
    exact alone.2 k differ
  · exact alone.2 k differ

/-- With no other transaction open, every message is taken at once. -/
theorem take (alone : Alone admits initial i s) (new : Supply) {call : Mutation} {m : Message}
    {next : Reply → Dialogue Unit} (sends : s.jobs i = some { call, program := .send m next })
    (fresh : ∀ q, m = .statement q → s.state.Fresh new q) :
    Alone admits initial i
      (s.put i ((s.state.session i).respond new m).2
        (some { call, program := next ((s.state.session i).respond new m).1 })) := by
  obtain ⟨reachable, alone⟩ := alone
  refine ⟨reachable.step (.exchange i sends (.takes new fun q same => ⟨fresh q same, fun waits => ?_⟩)), fun j differ => ?_⟩
  · cases q with
    | updateAsset id patch updatedBy =>
      obtain ⟨-, j, t, differ, isOpen, -⟩ := waits
      simp [alone j differ] at isOpen
    | _ => exact waits
  · rw [put_opened, if_neg differ, alone j differ]

/-- Once the transaction has ended, it is another one's turn. -/
theorem turn (alone : Alone admits initial i s) (closed : s.state.opened i = none) (k : Nat) :
    Alone admits initial k s := by
  refine ⟨alone.1, fun j _ => ?_⟩
  by_cases here : j = i
  · rw [here, closed]
  · exact alone.2 j here

end Alone
end Traffic

/-- Both peers at once. -/
def Peer.both {σ τ : Type} (p : Peer σ) (p' : Peer τ) : Peer (σ × τ) where
  accepts s m := p.accepts s.1 m ∧ p'.accepts s.2 m
  answers s m reply now := p.answers s.1 m reply now.1 ∧ p'.answers s.2 m reply now.2

/-- What is ensured against two peers is ensured against the two together. -/
theorem Dialogue.Ensures.both {σ τ α : Type} {p : Peer σ} {p' : Peer τ} {d : Dialogue α} {s : σ} {s' : τ}
    {post : α → σ → Prop} {post' : α → τ → Prop} (ensured : d.Ensures p s post) (ensured' : d.Ensures p' s' post') :
    d.Ensures (p.both p') (s, s') fun a now => post a now.1 ∧ post' a now.2 := by
  induction d generalizing s s' with
  | done a => exact ⟨ensured, ensured'⟩
  | send m next ih =>
    refine ⟨⟨ensured.1, ensured'.1⟩, fun reply now answered => ?_⟩
    exact ih reply (ensured.2 reply now.1 answered.1) (ensured'.2 reply now.2 answered.2)

/-- A transaction is open after a message, given whether one was before it. -/
def Message.leavesOpen (inside : Bool) (reply : Reply) : Message → Bool
  | .begin => !reply.isFailed
  | .statement _ => inside
  | .commit | .rollback => false

/-- A peer that takes writes between the beginning and the end of a transaction only. Its state tells whether one is
open. -/
def bracketed : Peer Bool where
  accepts inside
    | .begin => inside = false
    | .commit => inside = true
    | .rollback => True
    | .statement q => q.write?.isSome → inside = true
  answers inside m reply now := now = m.leavesOpen inside reply

namespace Exchange
variable {ε α : Type}

theorem Sends.bracketed {x : Exchange ε α} (sends : x.Sends Message.IsStatement) :
    x.Ensures bracketed true (fun _ now => now = true) fun _ now => now = true := by
  have inside {β : Type} {d : Dialogue β} {within : β → Unit → Prop}
      (sends : d.Ensures (.only Message.IsStatement) () within) : d.Ensures Store.bracketed true fun _ now => now = true := by
    induction d with
    | done b => rfl
    | send m next ih =>
      obtain ⟨q, rfl⟩ := sends.1
      refine ⟨fun _ => rfl, ?_⟩
      rintro reply _ rfl
      exact ih reply (sends.2 reply () trivial)
  refine (inside sends).mono ?_
  rintro (e | a) now stays <;> exact stays

/-- Work that sends statements only is put between the beginning and the end of a transaction. -/
theorem bracketed_transaction {ofStore : StoreError → ε} {work : Exchange ε α}
    (sends : work.Sends Message.IsStatement) :
    (transaction ofStore work).Ensures bracketed false (fun _ now => now = false) fun _ now => now = false := by
  have undoes (inside : Bool) : bracketed.Undoes inside fun now => now = false := ⟨trivial, fun _ _ closed => closed⟩
  refine ensures_transaction.2 (Dialogue.ensures_settle.2 ⟨rfl, ?_⟩)
  rintro opened _ rfl
  refine ⟨fun _ _ => undoes _, fun begun => ?_⟩
  have inside : Message.leavesOpen false opened .begin = true := by
    cases opened <;> simp_all [Message.leavesOpen, Reply.isFailed]
  rw [inside]
  refine Dialogue.Ensures.mono sends.bracketed ?_
  rintro (e | a) _ rfl
  · exact undoes _
  · refine ⟨rfl, ?_⟩
    rintro closed _ rfl
    exact ⟨fun _ _ => undoes _, fun _ => rfl⟩

end Exchange
end Store

namespace Service
open Store Exchange

-- Otherwise the check is carried out wherever a goal is compared with what is ensured.
attribute [local irreducible] Assets.checkCreate

theorem bracketed_checked {α β : Type} {check : Except ServiceError α} {work : α → Operation β}
    (sends : ∀ a, (work a).Sends Message.IsStatement) :
    (do let a ← Exchange.ofExcept check; transaction .ofStore (work a) : Operation β).Ensures bracketed false
      (fun _ now => now = false) fun _ now => now = false := by
  rw [ensures_bind, ensures_ofExcept]
  exact ⟨fun a _ => bracketed_transaction (sends a), fun _ _ => rfl⟩

/-- An operation writes between the beginning and the end of a transaction only, and leaves none open. -/
theorem Mutation.ensures_bracketed (m : Mutation) :
    m.operation.Ensures bracketed false (fun _ now => now = false) fun _ now => now = false := by
  cases m with
  | createAsset actor req => exact bracketed_checked (Assets.sends_register actor req)
  | updateAsset actor id req =>
    have found : (Assets.find id).Ensures bracketed false (fun _ now => now = false) fun _ now => now = false := by
      unfold Assets.find Assets.lookUp
      rw [ensures_bind, ensures_stored, fetchOptional_eq_single, ensures_single]
      refine ⟨nofun, ?_⟩
      rintro reply _ rfl
      refine ⟨fun existing _ => ?_, fun _ _ => rfl⟩
      cases existing <;> rfl
    refine ensures_bind.2 (Dialogue.Ensures.mono found ?_)
    rintro (e | existing) _ rfl
    · rfl
    · exact bracketed_checked fun fields => Assets.sends_writeUpdate actor id existing fields req.payload?
  | assignAsset req => exact bracketed_transaction (Assets.sends_handOut req)
  | retrieveAsset id => exact bracketed_transaction (Assets.sends_takeBack id)
  | archiveAsset actor id => exact bracketed_transaction (Assets.sends_withdraw actor id)
  | createUser desk actor req => exact bracketed_checked Users.sends_enrol
  | updateUser desk actor id patch => exact bracketed_checked (Users.sends_change actor id)
  | deleteUser actor id => exact bracketed_checked fun _ => Users.sends_dismiss actor id

/-- A peer that remembers what has been sent for a call, takes what the call may send then, and writes within
transactions only. -/
def attendant (call : Mutation) : Peer (List Event × Bool) := (Peer.ruled (Call.mutation call).Allows).both bracketed

/-- Every call keeps to what it may send, whatever it is answered, and leaves no transaction open. -/
theorem callDialogue_attended (m : Mutation) :
    (callDialogue m).Ensures (attendant m) ([], false) fun _ now => now.2 = false := by
  refine Dialogue.ensures_bind.2 (Dialogue.Ensures.mono ((m.obeys []).both m.ensures_bracketed) ?_)
  rintro (e | a) now ⟨-, closed⟩
  · exact closed
  · exact closed

end Service
end AssetRegistry
