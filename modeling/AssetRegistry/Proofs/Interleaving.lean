import AssetRegistry.Proofs.Tables
import AssetRegistry.Proofs.Transactions
import Mathlib.Logic.Function.Basic

namespace AssetRegistry.Store

/-- The rows that can be locked. -/
inductive RowRef where
  | asset (id : Uuid)
  | user (id : Uuid)
  deriving DecidableEq

/-- A lock of a row, for reading with others or for one transaction alone. -/
structure Lock where
  row : RowRef
  exclusive : Bool
  deriving DecidableEq

/-- Two locks of one row go together only if both are shared. -/
def Lock.Conflicts (l l' : Lock) : Prop := l.row = l'.row ∧ (l.exclusive = true ∨ l'.exclusive = true)

/-- The lock that a statement asks for. -/
def Statement.lock? : Statement → Option Lock
  | .lockAsset id => some { row := .asset id, exclusive := true }
  | .lockUser id exclusive => some { row := .user id, exclusive }
  | _ => none

/-- The row is there and live. -/
def Tables.hasLive (t : Tables) : RowRef → Bool
  | .asset id => (t.assets.live? id).isSome
  | .user id => (t.users.live? id).isSome

/-- The lock that a statement takes: a row that is not found is not locked. -/
def Tables.lockTaken (t : Tables) (q : Statement) : Option Lock := q.lock?.filter fun l => t.hasLive l.row

/-- A transaction that is open, with the rows it has written and the locks it holds. -/
structure Transaction where
  written : Tables := ∅
  locks : List Lock := []

/-- The transaction with newer rows over its own and perhaps a lock more. -/
def Transaction.extend (t : Transaction) (rows : Tables) (lock : Option Lock) : Transaction where
  written := rows ∪ t.written
  locks := lock.toList ++ t.locks

/-- What one connection sees of the store. -/
structure Session where
  committed : Tables
  opened : Option Transaction

namespace Session

/-- The committed rows, hidden by those the connection's own transaction has written. -/
def view (s : Session) : Tables :=
  match s.opened with
  | some t => t.written ∪ s.committed
  | none => s.committed

/-- How a message is carried out. Outside of a transaction each statement is committed at once. -/
def react (s : Session) (new : Supply) : Message → Reply × Session
  | .begin => (.affected 0, { s with opened := some (s.opened.getD {}) })
  | .commit => (.affected 0, { committed := s.view, opened := none })
  | .rollback => (.affected 0, { s with opened := none })
  | .statement q =>
    (s.view.answer new q,
      match s.opened with
      | some t => { s with opened := some (t.extend (s.view.written new q) (s.view.lockTaken q)) }
      | none => { s with committed := s.view.written new q ∪ s.committed })

/-- What is left where a message fails: nothing is carried out, and the end of a transaction undoes it. -/
def refuse (s : Session) : Message → Session
  | .commit | .rollback => { s with opened := none }
  | .begin | .statement _ => s

end Session

/-- The store with the transactions of its connections. -/
structure State where
  committed : Tables
  opened : Nat → Option Transaction

namespace State

/-- The store as one connection sees it. -/
def session (s : State) (i : Nat) : Session where
  committed := s.committed
  opened := s.opened i

/-- One connection's session is as given, and what it has committed is there for all. -/
def put (s : State) (i : Nat) (session : Session) : State where
  committed := session.committed
  opened := Function.update s.opened i session.opened

/-- No row has the identifier, be it committed or not. -/
def Unused {ρ : Type} (s : State) (table : Tables → Table ρ) (id : Uuid) : Prop :=
  id ∉ table s.committed ∧ ∀ i t, s.opened i = some t → id ∉ table t.written

/-- New rows get identifiers that are in use nowhere. -/
def Fresh (s : State) (new : Supply) : Statement → Prop
  | .insertAsset _ => s.Unused Tables.assets new.assetId
  | .recordStatus _ _ | .insertAssignment _ _ => s.Unused Tables.entries new.entryId
  | _ => True

/-- No other connection holds a lock in conflict with the one that a statement takes. -/
def Unlocked (s : State) (i : Nat) (q : Statement) : Prop :=
  ∀ lock ∈ (s.session i).view.lockTaken q, ∀ j t, j ≠ i → s.opened j = some t → ∀ other ∈ t.locks,
    ¬lock.Conflicts other

/-- A statement waits until the lock it takes is free, and looks at the rows again when it is. Writes are not waited for,
nor does any index keep rows out; a store that does more of that has fewer runs. -/
def Admits (s : State) (i : Nat) (new : Supply) : Message → Prop
  | .statement q => s.Fresh new q ∧ s.Unlocked i q
  | _ => True

/-- The reply that a connection may get to a message, and the store afterwards. Anything may fail at any time; a commit
that fails may have been carried out all the same. -/
inductive Reacts (s : State) (i : Nat) : Message → Reply → State → Prop
  | takes {m : Message} (new : Supply) : s.Admits i new m →
      Reacts s i m ((s.session i).react new m).1 (s.put i ((s.session i).react new m).2)
  | refuses {m : Message} (fault : Fault) : Reacts s i m (.failed fault) (s.put i ((s.session i).refuse m))
  | loses (new : Supply) (fault : Fault) :
      Reacts s i .commit (.failed fault) (s.put i ((s.session i).react new .commit).2)

end State

open Service

/-- A call that concerns the life of an asset or the end of a user. -/
def InLifecycle : Mutation → Prop
  | .createAsset _ _ | .assignAsset _ | .retrieveAsset _ | .archiveAsset _ _ | .deleteUser _ _ => True
  | .updateAsset _ _ _ | .createUser _ _ _ | .updateUser _ _ _ _ => False

instance (m : Mutation) : Decidable (InLifecycle m) := by
  unfold InLifecycle
  split <;> infer_instance

/-- A call on its connection; what comes of it stays with the caller. -/
def callDialogue (m : Mutation) : Dialogue Unit := do
  let _ ← m.operation.run
  pure ()

/-- The store and, for each connection, what is still to be sent on it. -/
structure System where
  state : State
  programs : Nat → Dialogue Unit

namespace System

/-- One thing that happens: a call is begun, a message is answered, or a call is dropped and its transaction undone. -/
inductive Step : System → System → Prop
  | call {s : System} (i : Nat) (m : Mutation) : s.programs i = .done () → InLifecycle m →
      Step s { s with programs := Function.update s.programs i (callDialogue m) }
  | exchange {s : System} (i : Nat) {m : Message} {next : Reply → Dialogue Unit} {reply : Reply} {after : State} :
      s.programs i = .send m next → s.state.Reacts i m reply after →
      Step s { state := after, programs := Function.update s.programs i (next reply) }
  | drop {s : System} (i : Nat) :
      Step s
        { state := s.state.put i { s.state.session i with opened := none }
          programs := Function.update s.programs i (.done ()) }

/-- Nobody is calling. -/
def idle (committed : Tables) : System where
  state := { committed, opened := fun _ => none }
  programs _ := .done ()

/-- What can be reached in any order of steps. -/
inductive Reachable (initial : Tables) : System → Prop
  | idle : Reachable initial (idle initial)
  | step {s s' : System} : Reachable initial s → Step s s' → Reachable initial s'

end System
end AssetRegistry.Store
