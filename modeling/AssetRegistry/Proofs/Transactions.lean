import AssetRegistry.Asset.Operations
import AssetRegistry.Directory.Operations
import AssetRegistry.Proofs.Record

namespace AssetRegistry.Store

/-- The text of the statement is one that inserts, updates or locks rows. -/
def Statement.WritesOrLocks (q : Statement) : Prop :=
  "INSERT ".toList <+: q.text.toList ∨ "UPDATE ".toList <+: q.text.toList ∨
    " FOR UPDATE".toList <:+ q.text.toList ∨ " FOR SHARE".toList <:+ q.text.toList

/-- The message neither begins nor ends a transaction. -/
def Message.IsStatement (m : Message) : Prop := ∃ q, m = .statement q

def Message.isBegin : Message → Bool
  | .begin => true
  | _ => false

def Message.isCommit : Message → Bool
  | .commit => true
  | _ => false

def Message.isRollback : Message → Bool
  | .rollback => true
  | _ => false

/-- What the messages of an operation keep to, given whether it succeeded. -/
structure Disciplined (events : List Event) (succeeded : Bool) : Prop where
  begun_once : events.countP (·.1.isBegin) ≤ 1
  /-- Before a write or a lock stands the beginning of its transaction and after it the end, with nothing but statements
  between the two. -/
  inside : ∀ before q reply after, events = before ++ (.statement q, reply) :: after → q.WritesOrLocks →
    ∃ earlier opened body rest closing later, before = earlier ++ (.begin, opened) :: body ∧
      after = rest ++ closing :: later ∧ (∀ e ∈ body ++ rest, e.1.IsStatement) ∧
      (closing.1.isCommit ∨ closing.1.isRollback)
  succeeded_iff : succeeded = true ↔
    events.countP (·.1.isCommit) = 1 ∧ ∃ reply, (.commit, reply) ∈ events ∧ reply.isFailed = false
  committed_last : succeeded = true → events.countP (·.1.isRollback) = 0 ∧
    ∃ before reply, events = before ++ [(.commit, reply)] ∧ reply.isFailed = false
  undone_last : succeeded = false → (∀ reply, (.commit, reply) ∈ events → reply.isFailed = true) ∧
    (events.countP (·.1.isBegin) = 1 → events.countP (·.1.isRollback) = 1 ∧
      ∃ before reply, events = before ++ [(.rollback, reply)])

/-- The last messages of a transaction, given whether it was committed. -/
inductive Closing : List Event → Bool → Prop
  | withdrawn (reply : Reply) : Closing [(.rollback, reply)] false
  | refused {closed : Reply} (reply : Reply) : closed.isFailed = true →
      Closing [(.commit, closed), (.rollback, reply)] false
  | committed {closed : Reply} : closed.isFailed = false → Closing [(.commit, closed)] true

/-- The messages of one transaction from its beginning to its end, given whether it was committed. -/
def Bracket (events : List Event) (committed : Bool) : Prop :=
  ∃ opened body closing, events = (.begin, opened) :: body ++ closing ∧ (∀ e ∈ body, e.1.IsStatement) ∧
    Closing closing committed

@[simp] theorem statement_isStatement (q : Statement) : (Message.statement q).IsStatement := ⟨q, rfl⟩

theorem commit_not_statement : ¬Message.commit.IsStatement := by simp [Message.IsStatement]

theorem countP_statements {body : List Event} (statements : ∀ e ∈ body, e.1.IsStatement) (kind : Message → Bool)
    (other : ∀ q, kind (.statement q) = false) : body.countP (kind ·.1) = 0 := by
  refine List.countP_eq_zero.2 ?_
  rintro ⟨m, reply⟩ member
  obtain ⟨q, rfl⟩ := statements _ member
  simp [other q]

/-- A transaction is closed by a commit or a rollback, not by statements. -/
theorem Closing.kinds {closing : List Event} {committed : Bool} (ends : Closing closing committed) :
    ∀ e ∈ closing, e.1.isCommit ∨ e.1.isRollback := by
  cases ends <;> simp [Message.isCommit, Message.isRollback]

theorem Closing.nonempty {closing : List Event} {committed : Bool} (ends : Closing closing committed) :
    ∃ first later, closing = first :: later := by
  cases ends <;> exact ⟨_, _, rfl⟩

theorem found_in_append {α : Type} {xs ys before after : List α} {x : α} (occurs : xs ++ ys = before ++ x :: after) :
    (∃ rest, xs = before ++ x :: rest ∧ after = rest ++ ys) ∨
      ∃ earlier, before = xs ++ earlier ∧ ys = earlier ++ x :: after := by
  rcases List.append_eq_append_iff.1 occurs with ⟨earlier, atBefore, atYs⟩ | ⟨middle, atXs, atAfter⟩
  · exact Or.inr ⟨earlier, atBefore, atYs⟩
  · cases middle with
    | nil => exact Or.inr ⟨[], by simpa using atXs.symm, by simpa using atAfter.symm⟩
    | cons first rest =>
      obtain ⟨rfl, rfl⟩ := List.cons.inj atAfter
      exact Or.inl ⟨rest, atXs, rfl⟩

/-- A statement that stands between reads and the end of a transaction, and is none of the reads, is part of the
transaction's body. -/
theorem found_in_body {reads body closing before after : List Event} {opened reply : Reply} {q : Statement}
    {committed : Bool} (calm : ∀ e ∈ reads, ∀ q, e.1 = .statement q → ¬q.WritesOrLocks)
    (ends : Closing closing committed)
    (occurs : reads ++ ((.begin, opened) :: body ++ closing) = before ++ (.statement q, reply) :: after)
    (marked : q.WritesOrLocks) :
    ∃ earlier rest, before = reads ++ (.begin, opened) :: earlier ∧ after = rest ++ closing ∧
      body = earlier ++ (.statement q, reply) :: rest := by
  rcases found_in_append occurs with ⟨rest, inReads, _⟩ | ⟨tail, atBefore, atRest⟩
  · exact absurd marked (calm (.statement q, reply) (by simp [inReads]) q rfl)
  rcases found_in_append atRest with ⟨rest, inBody, atAfter⟩ | ⟨past, _, inClosing⟩
  · cases tail with
    | nil => simp at inBody
    | cons first earlier =>
      obtain ⟨rfl, atBody⟩ := List.cons.inj inBody
      exact ⟨earlier, rest, atBefore, atAfter, atBody⟩
  · have kinds := ends.kinds (.statement q, reply) (by simp [inClosing])
    simp [Message.isCommit, Message.isRollback] at kinds

/-- What is not a statement is in a transaction once at its beginning, or else where it is closed. -/
theorem countP_transaction {reads body : List Event} (statements : ∀ e ∈ reads, e.1.IsStatement)
    (inner : ∀ e ∈ body, e.1.IsStatement) (opened : Reply) (closing : List Event) (kind : Message → Bool)
    (other : ∀ q, kind (.statement q) = false) :
    (reads ++ ((.begin, opened) :: body ++ closing)).countP (kind ·.1) =
      (if kind .begin then 1 else 0) + closing.countP (kind ·.1) := by
  have noReads := countP_statements statements kind other
  have noBody := countP_statements inner kind other
  simp only [List.countP_append, List.countP_cons, noReads, noBody]
  omega

theorem commit_mem_transaction {reads body : List Event} (statements : ∀ e ∈ reads, e.1.IsStatement)
    (inner : ∀ e ∈ body, e.1.IsStatement) (opened : Reply) (closing : List Event) (reply : Reply) :
    (.commit, reply) ∈ reads ++ ((.begin, opened) :: body ++ closing) ↔ (.commit, reply) ∈ closing := by
  have notRead : (.commit, reply) ∉ reads := fun member => commit_not_statement (statements _ member)
  have notInner : (.commit, reply) ∉ body := fun member => commit_not_statement (inner _ member)
  simp [notRead, notInner]

/-- Reads before a transaction leave its discipline as it is. -/
theorem Bracket.disciplined {reads events : List Event} {committed : Bool}
    (statements : ∀ e ∈ reads, e.1.IsStatement)
    (calm : ∀ e ∈ reads, ∀ q, e.1 = .statement q → ¬q.WritesOrLocks) (bracket : Bracket events committed) :
    Disciplined (reads ++ events) committed := by
  obtain ⟨opened, body, closing, rfl, inner, ends⟩ := bracket
  have begins := countP_transaction statements inner opened closing Message.isBegin fun _ => rfl
  have commits := countP_transaction statements inner opened closing Message.isCommit fun _ => rfl
  have rollbacks := countP_transaction statements inner opened closing Message.isRollback fun _ => rfl
  have commitAt := commit_mem_transaction statements inner opened closing
  refine ⟨?_, ?_, ?_, ?_, ?_⟩
  · rw [begins]
    cases ends <;> simp [Message.isBegin]
  · intro before q reply after occurs marked
    obtain ⟨earlier, rest, atBefore, atAfter, atBody⟩ := found_in_body calm ends occurs marked
    obtain ⟨first, later, atClosing⟩ := ends.nonempty
    refine ⟨reads, opened, earlier, rest, first, later, atBefore, by rw [atAfter, atClosing], ?_, ?_⟩
    · intro e member
      refine inner e ?_
      rw [atBody]
      rcases List.mem_append.1 member with left | right
      · exact List.mem_append_left _ left
      · exact List.mem_append_right _ (List.mem_cons_of_mem _ right)
    · exact ends.kinds first (by simp [atClosing])
  · rw [commits]
    simp only [commitAt]
    cases ends <;> simp_all [Message.isBegin, Message.isCommit]
  · rintro rfl
    rw [rollbacks]
    cases ends with
    | committed acknowledged =>
      exact ⟨by simp [Message.isRollback], reads ++ (.begin, opened) :: body, _, by simp, acknowledged⟩
  · rintro rfl
    rw [begins, rollbacks]
    simp only [commitAt]
    cases ends with
    | withdrawn reply =>
      exact ⟨by simp, fun _ => ⟨by simp [Message.isRollback], reads ++ (.begin, opened) :: body, reply, by simp⟩⟩
    | @refused closed reply unacknowledged =>
      refine ⟨by simp [unacknowledged], fun _ => ⟨by simp [Message.isRollback], ?_⟩⟩
      exact ⟨reads ++ (.begin, opened) :: body ++ [(.commit, closed)], reply, by simp⟩

/-- Reads alone are disciplined, and a call that sends no more has failed. -/
theorem disciplined_of_reads {reads : List Event} (statements : ∀ e ∈ reads, e.1.IsStatement)
    (calm : ∀ e ∈ reads, ∀ q, e.1 = .statement q → ¬q.WritesOrLocks) : Disciplined reads false := by
  have begins := countP_statements statements Message.isBegin fun _ => rfl
  have commits := countP_statements statements Message.isCommit fun _ => rfl
  refine ⟨by omega, ?_, by simp [commits], by simp, ?_⟩
  · intro before q reply after occurs marked
    exact absurd marked (calm (.statement q, reply) (by simp [occurs]) q rfl)
  · refine fun _ => ⟨fun reply member => ?_, by omega⟩
    obtain ⟨q, same⟩ := statements _ member
    simp at same

/-- Work that sends statements only becomes a disciplined operation by being a transaction, and reads before it do no
harm. -/
theorem disciplined_transaction {ε α : Type} {ofStore : StoreError → ε} {work : Exchange ε α} {reads : List Event}
    (sends : work.Sends Message.IsStatement) (statements : ∀ e ∈ reads, e.1.IsStatement)
    (calm : ∀ e ∈ reads, ∀ q, e.1 = .statement q → ¬q.WritesOrLocks) :
    (transaction ofStore work).Ensures recorder reads (fun _ events => Disciplined events true)
      fun _ events => Disciplined events false := by
  have bracket {events : List Event} {committed : Bool} (bracket : Bracket events committed) :
      Disciplined (reads ++ events) committed := bracket.disciplined statements calm
  refine Exchange.ensures_transaction.2 (Dialogue.ensures_settle.2 ⟨trivial, ?_⟩)
  rintro opened _ rfl
  refine ⟨?_, fun _ => ?_⟩
  · rintro fault rfl
    refine ⟨trivial, ?_⟩
    rintro reply _ rfl
    rw [List.append_assoc]
    exact bracket ⟨.failed fault, [], _, rfl, by simp, .withdrawn reply⟩
  · refine (sends.record _).mono ?_
    rintro (e | a) _ ⟨body, rfl, inner⟩
    · refine ⟨trivial, ?_⟩
      rintro reply _ rfl
      simp only [List.append_assoc, List.singleton_append]
      exact bracket ⟨opened, body, _, rfl, inner, .withdrawn reply⟩
    · refine ⟨trivial, ?_⟩
      rintro closed _ rfl
      refine ⟨?_, fun acknowledged => ?_⟩
      · rintro fault rfl
        refine ⟨trivial, ?_⟩
        rintro reply _ rfl
        simp only [List.append_assoc, List.singleton_append]
        exact bracket ⟨opened, body, _, rfl, inner, .refused reply rfl⟩
      · have succeeded : closed.isFailed = false := by
          cases closed <;> simp_all [Reply.isFailed]
        simp only [List.append_assoc, List.singleton_append]
        exact bracket ⟨opened, body, _, rfl, inner, .committed succeeded⟩

-- Both ends of a text tell it from all that write or lock, without a look at what is between them.
/-- A text that does not begin with an `S` may write, and one that ends with an `E` may lock. -/
theorem Statement.WritesOrLocks.marked {q : Statement} (writesOrLocks : q.WritesOrLocks) :
    q.text.toList.head? ≠ some 'S' ∨ q.text.toList.getLast? = some 'E' := by
  rcases writesOrLocks with ⟨rest, same⟩ | ⟨rest, same⟩ | ⟨rest, same⟩ | ⟨rest, same⟩
  all_goals rw [← same]; simp

theorem head_append {a b : String} {c : Char} (first : a.toList.head? = some c) : (a ++ b).toList.head? = some c := by
  simp [first]

theorem last_append {a b : String} {c : Char} (last : b.toList.getLast? = some c) :
    (a ++ b).toList.getLast? = some c := by
  simp [last]

theorem findAsset_reads (id : Uuid) : ¬(Statement.findAsset id).WritesOrLocks := by
  have first : (Statement.findAsset id).text.toList.head? = some 'S' := by
    unfold Statement.text
    repeat with_reducible apply head_append
    simp
  have last : (Statement.findAsset id).text.toList.getLast? = some 'L' := last_append (by simp)
  intro writesOrLocks
  rcases writesOrLocks.marked with starts | ends
  · exact starts first
  · simp [last] at ends

@[simp] theorem only_accepts (kind : Message → Prop) (s : Unit) (m : Message) :
    (Peer.only kind).accepts s m ↔ kind m := Iff.rfl

end AssetRegistry.Store

namespace AssetRegistry
open Store Service Exchange

/-- The work of a transaction sends statements only, so it cannot end the transaction by itself. -/
theorem sends_findOrInsert {α : Type} (find insert : Statement) (read : RowReader α) (missing : StoreError) :
    (findOrInsert find insert read missing).Sends Message.IsStatement :=
  ensures_findOrInsert (fun _ _ => sends_single _ (statement_isStatement _))
    (fun _ _ => sends_single _ (statement_isStatement _)) trivial

namespace Assets

theorem sends_register (actor : Actor) (req : CreateAsset) (r : Registration) :
    (register actor req r).Sends Message.IsStatement := by
  have brand (name : String) : (stored (Brand.findOrInsert name)).Sends Message.IsStatement :=
    (sends_findOrInsert _ _ _ _).mapError _
  have model (id : Uuid) (name : String) :
      (stored (Model.findOrInsert id name r.assetType)).Sends Message.IsStatement :=
    (sends_findOrInsert _ _ _ _).mapError _
  refine (brand _).bind fun b => (model _ _).bind fun m => ?_
  simp [Sends, Attributes.create, insert, Ledger.recordStatus]

theorem sends_writeUpdate (actor : Actor) (id : Uuid) (existing : Asset) (fields : AssetPatch) (specs : Option Json) :
    (writeUpdate actor id existing fields specs).Sends Message.IsStatement := by
  simp only [Sends, writeUpdate, write, ensures_bind, ensures_stored]
  cases specs <;> simp [AttributesPatch.apply]

theorem sends_handOut (req : AssignAsset) : (handOut req).Sends Message.IsStatement := by
  simp [Sends, handOut, lock, Ledger.isAvailable, Ledger.insertAssignment]

theorem sends_takeBack (id : Uuid) : (takeBack id).Sends Message.IsStatement := by
  unfold takeBack
  refine Sends.bind (by simp [Sends, lock]) fun locked => ?_
  refine sends_ite (sends_throw _) (Sends.bind (by simp [Sends, Ledger.findAssignment]) fun found => ?_)
  cases found with
  | none => exact sends_throw _
  | some entry => simp [Sends, Ledger.archiveEntry]

theorem sends_withdraw (actor : Actor) (id : Uuid) : (withdraw actor id).Sends Message.IsStatement := by
  simp [Sends, withdraw, lock, Ledger.isAvailable, stampArchived]

end Assets

namespace Users

theorem sends_enrol (user : NewUser) : (enrol user).Sends Message.IsStatement := by
  simp [Sends, enrol, lookUpByEmail, insert, addRole]

theorem sends_change (actor : Actor) (id : Uuid) (patch : UserPatch) :
    (change actor id patch).Sends Message.IsStatement := by
  refine Sends.bind (by simp [Sends, write]) fun changed => ?_
  cases changed with
  | none => exact sends_throw _
  | some user => exact sends_pure user

theorem sends_dismiss (actor : Actor) (id : Uuid) : (dismiss actor id).Sends Message.IsStatement := by
  simp [Sends, dismiss, lock, Ledger.countAssignments, stampArchived]

end Users

namespace Service

/-- The operations that change what is stored. -/
inductive Mutation where
  | createAsset (actor : Actor) (req : CreateAsset)
  | updateAsset (actor : Actor) (id : Uuid) (req : UpdateAsset)
  | assignAsset (req : AssignAsset)
  | retrieveAsset (id : Uuid)
  | archiveAsset (actor : Actor) (id : Uuid)
  | createUser (desk : Users.Desk) (actor : Actor) (req : CreateUser)
  | updateUser (desk : Users.Desk) (actor : Actor) (id : Uuid) (patch : UserPatch)
  | deleteUser (actor : Actor) (id : Uuid)

namespace Mutation

def Result : Mutation → Type
  | .createAsset _ _ => Uuid
  | .assignAsset _ => LedgerEntry
  | .createUser _ _ _ | .updateUser _ _ _ _ => User
  | .updateAsset _ _ _ | .retrieveAsset _ | .archiveAsset _ _ | .deleteUser _ _ => Unit

/-- What is sent to carry a change out. -/
def operation : (m : Mutation) → Operation m.Result
  | .createAsset actor req => Assets.create actor req
  | .updateAsset actor id req => Assets.update actor id req
  | .assignAsset req => Assets.assign req
  | .retrieveAsset id => Assets.retrieve id
  | .archiveAsset actor id => Assets.archive actor id
  | .createUser desk actor req => Users.create desk actor req
  | .updateUser desk actor id patch => Users.update desk actor id patch
  | .deleteUser actor id => Users.delete actor id

end Mutation

/-- A check, then one transaction. -/
theorem disciplined_checked {α β : Type} {check : Except ServiceError α} {work : α → Operation β} {reads : List Event}
    (sends : ∀ a, (work a).Sends Message.IsStatement) (statements : ∀ e ∈ reads, e.1.IsStatement)
    (calm : ∀ e ∈ reads, ∀ q, e.1 = .statement q → ¬q.WritesOrLocks) :
    (do let a ← Exchange.ofExcept check; transaction .ofStore (work a) : Operation β).Ensures recorder reads
      (fun _ events => Disciplined events true) fun _ events => Disciplined events false := by
  rw [ensures_bind, ensures_ofExcept]
  exact ⟨fun a _ => disciplined_transaction (sends a) statements calm,
    fun _ _ => disciplined_of_reads statements calm⟩

-- Otherwise the check is carried out wherever a goal is compared with what is ensured.
attribute [local irreducible] Assets.checkCreate

/-- The look-up before an update sends one statement, whatever comes of it. -/
theorem disciplined_find (id : Uuid) :
    (Assets.find id).Ensures recorder []
      (fun _ events => ∃ reply, events = [(.statement (.findAsset id), reply)])
      fun _ events => ∃ reply, events = [(.statement (.findAsset id), reply)] := by
  refine ensures_bind.2 (ensures_stored.2 ?_)
  rw [Assets.lookUp, fetchOptional_eq_single, ensures_single]
  refine ⟨trivial, ?_⟩
  rintro reply _ rfl
  refine ⟨fun found _ => ?_, fun _ _ => ⟨reply, rfl⟩⟩
  cases found with
  | none => exact ⟨reply, rfl⟩
  | some asset => exact ⟨reply, rfl⟩

/-- The record of a change is one transaction, closed as the result tells. -/
theorem Mutation.ensures_disciplined (m : Mutation) :
    m.operation.Ensures recorder [] (fun _ events => Disciplined events true)
      fun _ events => Disciplined events false := by
  cases m with
  | createAsset actor req =>
    have sends := Assets.sends_register actor req
    exact disciplined_checked sends (by simp) (by simp)
  | updateAsset actor id req =>
    refine ensures_bind.2 ((disciplined_find id).mono ?_)
    rintro result _ ended
    have statements (reply : Reply) : ∀ e ∈ [(Message.statement (.findAsset id), reply)], e.1.IsStatement := by simp
    have calm (reply : Reply) : ∀ e ∈ [(Message.statement (.findAsset id), reply)], ∀ q, e.1 = .statement q →
        ¬q.WritesOrLocks := by
      simpa using findAsset_reads id
    cases result with
    | error e =>
      obtain ⟨reply, rfl⟩ := ended
      exact disciplined_of_reads (statements reply) (calm reply)
    | ok existing =>
      obtain ⟨reply, rfl⟩ := ended
      exact disciplined_checked (fun fields => Assets.sends_writeUpdate actor id existing fields req.payload?)
        (statements reply) (calm reply)
  | assignAsset req => exact disciplined_transaction (Assets.sends_handOut req) (by simp) (by simp)
  | retrieveAsset id => exact disciplined_transaction (Assets.sends_takeBack id) (by simp) (by simp)
  | archiveAsset actor id => exact disciplined_transaction (Assets.sends_withdraw actor id) (by simp) (by simp)
  | createUser desk actor req => exact disciplined_checked Users.sends_enrol (by simp) (by simp)
  | updateUser desk actor id patch => exact disciplined_checked (Users.sends_change actor id) (by simp) (by simp)
  | deleteUser actor id => exact disciplined_checked (fun _ => Users.sends_dismiss actor id) (by simp) (by simp)

/-- Whatever the store answers, an operation that writes does so in one transaction, and it succeeds exactly if that is
committed. -/
theorem mutations_disciplined (m : Mutation) (replies : Nat → Reply) :
    Disciplined (m.operation.run.against replies).1 (m.operation.run.against replies).2.isOk := by
  have ended := Dialogue.Ensures.against m.ensures_disciplined replies
  rw [List.nil_append] at ended
  cases result : (m.operation.run.against replies).2 with
  | error e => simpa [result, Except.isOk, Except.toBool] using ended
  | ok a => simpa [result, Except.isOk, Except.toBool] using ended

end Service
end AssetRegistry
