import AssetRegistry.Store.Statement

namespace AssetRegistry.Store

/-- What is sent to the store. -/
inductive Message where
  | begin
  | commit
  | rollback
  | statement (s : Statement)

/-- What the store answers. -/
inductive Reply where
  | rows (rows : List Row)
  /-- The number of rows a statement touched that returns none. -/
  | affected (count : Nat)
  | failed (fault : Fault)
  deriving DecidableEq

/-- Steps of sending and waiting for the reply, with a result at their end. -/
inductive Dialogue (α : Type) where
  | done (result : α)
  | send (message : Message) (next : Reply → Dialogue α)

namespace Dialogue
variable {α β : Type}

def bind : Dialogue α → (α → Dialogue β) → Dialogue β
  | .done a, f => f a
  | .send m next, f => .send m fun reply => (next reply).bind f

instance : Monad Dialogue where
  pure := .done
  bind := bind

/-- Sends a message; the reply is the result. -/
def ask (m : Message) : Dialogue Reply := .send m .done

/-- The result where no connection can be had: a dialogue that would send anything ends with `refused` instead. -/
def withoutConnection (refused : α) : Dialogue α → α
  | .done a => a
  | .send _ _ => refused

end Dialogue

/-- A dialogue that may fail. -/
abbrev Exchange (ε α : Type) := ExceptT ε Dialogue α

def Exchange.mapError {ε ε' α : Type} (f : ε → ε') (x : Exchange ε α) : Exchange ε' α := ExceptT.adapt f x

/-- A result that may be an error, with nothing sent. -/
def Exchange.ofExcept {ε α : Type} (x : Except ε α) : Exchange ε α := ExceptT.mk (pure x)

/-- Sends a statement and takes its rows; a reply without rows has none. -/
def rowsOf (s : Statement) : Exchange StoreError (List Row) :=
  ExceptT.mk do
    match ← Dialogue.ask (.statement s) with
    | .rows rows => pure (.ok rows)
    | .affected _ => pure (.ok [])
    | .failed fault => pure (.error (.ofFault fault))

def execute (s : Statement) : Exchange StoreError Nat :=
  ExceptT.mk do
    match ← Dialogue.ask (.statement s) with
    | .rows rows => pure (.ok rows.length)
    | .affected count => pure (.ok count)
    | .failed fault => pure (.error (.ofFault fault))

abbrev RowReader (α : Type) := Row → Except ClientError α

def decode {α : Type} (read : RowReader α) (row : Row) : Exchange StoreError α :=
  .ofExcept ((read row).mapError .ofClient)

def fetchAll {α : Type} (s : Statement) (read : RowReader α) : Exchange StoreError (List α) := do
  .ofExcept (((← rowsOf s).mapM read).mapError .ofClient)

/-- The first row of a statement, if there is one. -/
def fetchOptional {α : Type} (s : Statement) (read : RowReader α) : Exchange StoreError (Option α) := do
  match ← rowsOf s with
  | [] => pure none
  | row :: _ => return some (← decode read row)

/-- The first row of a statement, which has to be there. -/
def fetchOne {α : Type} (s : Statement) (read : RowReader α) : Exchange StoreError α := do
  match ← rowsOf s with
  | [] => throw (.ofClient .rowNotFound)
  | row :: _ => decode read row

/-- The text and arguments of a list query; nothing is sent for one that has none. -/
def checkQuery (q : Query.Select) : Exchange StoreError Query.Rendered :=
  .ofExcept (q.render.mapError fun e => .query e.message)

/-- How a transaction ended. -/
inductive Settled (ε α : Type) where
  | committed (a : α)
  /-- The work itself failed, and all of it was undone. -/
  | withdrawn (e : ε)
  /-- The store did not begin or not commit the transaction, and all of it was undone. -/
  | refused (e : StoreError)

/-- Works inside a transaction. It is committed if the work succeeds, and rolled back in every other case. -/
def settle {ε α : Type} (work : Exchange ε α) : Dialogue (Settled ε α) := do
  match ← Dialogue.ask .begin with
  | .failed fault =>
    let _ ← Dialogue.ask .rollback
    pure (.refused (.ofFault fault))
  | _ =>
    match ← work.run with
    | .error e =>
      let _ ← Dialogue.ask .rollback
      pure (.withdrawn e)
    | .ok a =>
      match ← Dialogue.ask .commit with
      | .failed fault =>
        let _ ← Dialogue.ask .rollback
        pure (.refused (.ofFault fault))
      | _ => pure (.committed a)

/-- Works inside a transaction whose end decides the result. -/
def transaction {ε α : Type} (ofStore : StoreError → ε) (work : Exchange ε α) : Exchange ε α :=
  ExceptT.mk do
    match ← settle work with
    | .committed a => pure (.ok a)
    | .withdrawn e => pure (.error e)
    | .refused e => pure (.error (ofStore e))

end AssetRegistry.Store
