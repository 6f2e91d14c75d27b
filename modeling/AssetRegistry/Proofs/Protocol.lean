import AssetRegistry.Proofs.Interleaving
import Mathlib.Data.Set.Insert

namespace AssetRegistry.Store

/-- What a transaction may know. -/
inductive Fact where
  | nothingWritten
  /-- The asset is live and locked. -/
  | assetLocked (id : Uuid)
  /-- The asset is live, locked and not assigned. -/
  | unassigned (assetId : Uuid)
  /-- The asset is locked, and the committed ledger entry assigns it. -/
  | assigns (entry assetId : Uuid)
  /-- The user is live and locked. -/
  | userLocked (id : Uuid) (exclusive : Bool)
  /-- The user is live, locked against all others, and holds no assets. -/
  | holdsNothing (userId : Uuid)

/-- The facts that an answer adds to those known. -/
inductive Learns (known : Set Fact) (reply : Reply) : Statement → Fact → Prop
  | assetLocked {id found : Uuid} : Reply.first? (Row.scalar .uuid) reply = .ok (some found) →
      Learns known reply (.lockAsset id) (.assetLocked id)
  | unassigned {assetId : Uuid} : .assetLocked assetId ∈ known → Reply.first (Row.scalar .flag) reply = .ok false →
      Learns known reply (.isAssigned assetId) (.unassigned assetId)
  | assigns {assetId entry : Uuid} : .assetLocked assetId ∈ known → .nothingWritten ∈ known →
      Reply.first? (Row.scalar .uuid) reply = .ok (some entry) →
      Learns known reply (.findAssignment assetId) (.assigns entry assetId)
  | userLocked {id found : Uuid} {exclusive : Bool} : Reply.first? (Row.scalar .uuid) reply = .ok (some found) →
      Learns known reply (.lockUser id exclusive) (.userLocked id exclusive)
  | holdsNothing {userId : Uuid} {held : Int64} : .userLocked userId true ∈ known →
      Reply.first (Row.scalar .int64) reply = .ok held → ¬0 < held →
      Learns known reply (.countAssignments userId) (.holdsNothing userId)

/-- Rows are written that facts may be about. -/
def Statement.writes : Statement → Bool
  | .insertAsset _ | .recordStatus _ _ | .insertAssignment _ _ | .archiveEntry _ | .archiveAsset _ _
  | .archiveUser _ _ => true
  | _ => false

/-- What is known after an answer. A write makes everything known before forgotten. -/
def learn (known : Set Fact) (q : Statement) (reply : Reply) : Set Fact :=
  { fact | (q.writes = false ∧ fact ∈ known) ∨ Learns known reply q fact }

/-- The statements that may be sent, given what is known. -/
def Permits (known : Set Fact) : Statement → Prop
  | .recordStatus _ status => status ≠ .assigned
  | .insertAssignment assetId userId => .unassigned assetId ∈ known ∧ ∃ exclusive, .userLocked userId exclusive ∈ known
  | .archiveEntry entry => ∃ assetId, .assigns entry assetId ∈ known
  | .archiveAsset id _ => .unassigned id ∈ known
  | .archiveUser id _ => .holdsNothing id ∈ known
  | .updateAsset _ _ _ | .insertUser _ | .updateUser _ _ _ => False
  | _ => True

/-- What is known by a connection; nothing can be known outside of a transaction. -/
abbrev Knowledge := Option (Set Fact)

/-- What is known after a message and its reply: nothing outside of transactions, and at the beginning of one that
nothing is written yet. -/
def Knowledge.after : Knowledge → Message → Reply → Knowledge
  | none, .begin, reply => if reply.isFailed then none else some {.nothingWritten}
  | some known, .statement q, reply => some (learn known q reply)
  | _, _, _ => none

/-- Statements are sent within transactions, and only if they are permitted. -/
def protocol : Peer Knowledge where
  accepts
    | none, .begin | none, .rollback | some _, .commit | some _, .rollback => True
    | some known, .statement q => Permits known q
    | _, _ => False
  answers known m reply now := now = Knowledge.after known m reply

theorem learn_old {known : Set Fact} {q : Statement} {reply : Reply} {fact : Fact} (reads : q.writes = false)
    (old : fact ∈ known) : fact ∈ learn known q reply := Or.inl ⟨reads, old⟩

/-- What a reply tells is known from then on, even if its statement writes. -/
theorem learn_new {known : Set Fact} {q : Statement} {reply : Reply} {fact : Fact}
    (learns : Learns known reply q fact) : fact ∈ learn known q reply := Or.inr learns

/-- A transaction is open. -/
def Inside (known : Knowledge) : Prop := known.isSome = true

theorem inside_some (known : Set Fact) : Inside (some known) := rfl

namespace Exchange
variable {ε α : Type} {known : Set Fact}

/-- A statement that the known facts permit; what it is told is known to the rest. -/
theorem follows_single {q : Statement} {read : Reply → Except ε α} {ok : α → Knowledge → Prop}
    {error : ε → Knowledge → Prop} (permitted : Permits known q)
    (onOk : ∀ reply a, read reply = .ok a → ok a (some (learn known q reply)))
    (onError : ∀ e now, error e (some now)) : (single q read).Ensures protocol (some known) ok error := by
  refine ensures_single.2 ⟨permitted, ?_⟩
  rintro reply _ rfl
  exact ⟨onOk reply, fun e _ => onError e _⟩

/-- The work of a transaction begins with one known fact, that nothing is written yet. -/
theorem follows_transaction {ofStore : StoreError → ε} {work : Exchange ε α}
    (follows : work.Ensures protocol (some {.nothingWritten}) (fun _ now => Inside now) fun _ now => Inside now) :
    (transaction ofStore work).Ensures protocol none (fun _ now => now = none) fun _ now => now = none := by
  have undoes (now : Knowledge) : protocol.Undoes now fun now => now = none := by
    cases now <;> exact ⟨trivial, fun _ _ left => left⟩
  refine ensures_transaction.2 (Dialogue.ensures_settle.2 ⟨trivial, ?_⟩)
  rintro opened _ rfl
  refine ⟨?_, fun begun => ?_⟩
  · rintro fault rfl
    exact undoes _
  · have inside : Knowledge.after none .begin opened = some {.nothingWritten} := by
      cases opened <;> simp_all [Knowledge.after, Reply.isFailed]
    rw [inside]
    refine Dialogue.Ensures.mono follows ?_
    rintro (e | a) now stillInside
    · exact undoes now
    · obtain ⟨known, rfl⟩ := Option.isSome_iff_exists.1 stillInside
      refine ⟨trivial, ?_⟩
      rintro closed _ rfl
      exact ⟨fun _ _ => undoes _, fun _ => rfl⟩

end Exchange
end AssetRegistry.Store

namespace AssetRegistry
open Store Service Exchange

theorem follows_findOrInsert {α : Type} {known : Knowledge} {find insert : Statement} (read : RowReader α)
    (missing : StoreError) (finds : ∀ known, Permits known find) (inserts : ∀ known, Permits known insert)
    (inside : Inside known) :
    (findOrInsert find insert read missing).Ensures protocol known (fun _ => Inside) fun _ => Inside := by
  have single {q : Statement} (permitted : ∀ known, Permits known q) (known : Knowledge) (inside : Inside known) :
      (single q (Reply.first? read)).Ensures protocol known (fun _ => Inside) fun _ => Inside := by
    obtain ⟨facts, rfl⟩ := Option.isSome_iff_exists.1 inside
    exact follows_single (permitted facts) (fun _ _ _ => inside_some _) fun _ _ => inside_some _
  exact ensures_findOrInsert (single finds) (single inserts) inside

namespace Assets

theorem initialStatus_eq_ok {wanted : Option AssetStatus} {status : AssetStatus} :
    initialStatus wanted = .ok status ↔ wanted ≠ some .assigned ∧ status = wanted.getD .available := by
  rcases wanted with _ | _ | _ | _ <;> simp [initialStatus, eq_comm]

theorem initialStatus_ne_assigned {wanted : Option AssetStatus} {status : AssetStatus}
    (initial : initialStatus wanted = .ok status) : status ≠ .assigned := by
  obtain ⟨notAssigned, rfl⟩ := initialStatus_eq_ok.1 initial
  cases wanted with
  | none => simp
  | some status => simpa using notAssigned

theorem checkCreate_status {req : CreateAsset} {r : Registration} (checked : checkCreate req = .ok r) :
    initialStatus req.status = .ok r.status := by
  unfold checkCreate at checked
  obtain ⟨_, _, checked⟩ := ok_of_bind checked
  cases date : req.purchasedDate with
  | none =>
    rw [date] at checked
    cases checked
  | some purchased =>
    rw [date] at checked
    obtain ⟨_, _, checked⟩ := ok_of_bind checked
    obtain ⟨_, _, checked⟩ := ok_of_bind checked
    obtain ⟨status, initial, checked⟩ := ok_of_bind checked
    obtain ⟨_, _, checked⟩ := ok_of_bind checked
    obtain rfl := Except.ok.inj checked
    exact initial

/-- An assignment is inserted when the asset is known to be free and the user to be locked. -/
theorem handOut_follows (req : AssignAsset) :
    (handOut req).Ensures protocol (some {.nothingWritten}) (fun _ now => Inside now) fun _ now => Inside now := by
  simp only [handOut, lock, Ledger.isAvailable, Ledger.insertAssignment, fetchOptional_eq_single, fetchOne_eq_single,
    ensures_bind, ensures_stored, ensures_pure, ensures_ite, ensures_throw]
  refine follows_single trivial (fun reply locked readsAsset => ⟨fun _ => inside_some _, fun asset => ?_⟩)
    fun _ _ => inside_some _
  obtain ⟨found, rfl⟩ := Option.ne_none_iff_exists'.1 (by simpa using asset)
  refine follows_single trivial (fun reply' locked readsUser => ⟨fun _ => inside_some _, fun user => ?_⟩)
    fun _ _ => inside_some _
  obtain ⟨found', rfl⟩ := Option.ne_none_iff_exists'.1 (by simpa using user)
  refine follows_single trivial (fun reply'' assigned readsFlag => ⟨fun _ => inside_some _, fun available => ?_⟩)
    fun _ _ => inside_some _
  obtain rfl : assigned = false := by simpa using available
  refine follows_single ⟨?_, false, ?_⟩ (fun _ _ _ => inside_some _) fun _ _ => inside_some _
  · exact learn_new (.unassigned (learn_old rfl (learn_new (.assetLocked readsAsset))) readsFlag)
  · exact learn_old rfl (learn_new (.userLocked readsUser))

theorem takeBack_follows (id : Uuid) :
    (takeBack id).Ensures protocol (some {.nothingWritten}) (fun _ now => Inside now) fun _ now => Inside now := by
  simp only [takeBack, lock, Ledger.findAssignment, fetchOptional_eq_single, ensures_bind, ensures_stored,
    ensures_pure, ensures_ite, ensures_throw]
  refine follows_single trivial (fun reply locked readsAsset => ⟨fun _ => inside_some _, fun asset => ?_⟩)
    fun _ _ => inside_some _
  obtain ⟨found, rfl⟩ := Option.ne_none_iff_exists'.1 (by simpa using asset)
  refine follows_single trivial (fun reply' assigning readsEntry => ?_) fun _ _ => inside_some _
  cases assigning with
  | none => exact inside_some _
  | some entry =>
    simp only [Ledger.archiveEntry, execute_eq_single, ensures_bind, ensures_stored, ensures_pure]
    refine follows_single ⟨id, ?_⟩ (fun _ _ _ => inside_some _) fun _ _ => inside_some _
    exact learn_new (.assigns (learn_new (.assetLocked readsAsset)) (learn_old rfl rfl) readsEntry)

/-- An asset is archived when it is known to be free. -/
theorem withdraw_follows (actor : Actor) (id : Uuid) :
    (withdraw actor id).Ensures protocol (some {.nothingWritten}) (fun _ now => Inside now) fun _ now => Inside now := by
  simp only [withdraw, lock, Ledger.isAvailable, stampArchived, fetchOptional_eq_single, fetchOne_eq_single,
    execute_eq_single, ensures_bind, ensures_stored, ensures_pure, ensures_ite, ensures_throw]
  refine follows_single trivial (fun reply locked readsAsset => ⟨fun _ => inside_some _, fun asset => ?_⟩)
    fun _ _ => inside_some _
  obtain ⟨found, rfl⟩ := Option.ne_none_iff_exists'.1 (by simpa using asset)
  refine follows_single trivial (fun reply' assigned readsFlag => ⟨fun _ => inside_some _, fun available => ?_⟩)
    fun _ _ => inside_some _
  obtain rfl : assigned = false := by simpa using available
  refine follows_single ?_ (fun _ _ _ => inside_some _) fun _ _ => inside_some _
  exact learn_new (.unassigned (learn_new (.assetLocked readsAsset)) readsFlag)

/-- All that the protocol asks of a registration is that its first status is not an assignment. -/
theorem register_follows (actor : Actor) {req : CreateAsset} {r : Registration} (checked : checkCreate req = .ok r) :
    (register actor req r).Ensures protocol (some {.nothingWritten}) (fun _ now => Inside now)
      fun _ now => Inside now := by
  have unassigned := initialStatus_ne_assigned (checkCreate_status checked)
  have brands : (Brand.findOrInsert r.brandName).Ensures protocol (some {.nothingWritten}) (fun _ => Inside)
      fun _ => Inside :=
    follows_findOrInsert Brand.ofRow _ (fun _ => trivial) (fun _ => trivial) (inside_some _)
  have models (known : Knowledge) (inside : Inside known) (brandId : Uuid) :
      (Model.findOrInsert brandId r.modelName r.assetType).Ensures protocol known (fun _ => Inside) fun _ => Inside :=
    follows_findOrInsert Model.ofRow _ (fun _ => trivial) (fun _ => trivial) inside
  simp only [register, Attributes.create, insert, Ledger.recordStatus, fetchOne_eq_single, ensures_bind,
    ensures_stored, ensures_mapError, ensures_ofExcept]
  refine Dialogue.Ensures.mono brands ?_
  rintro (e | brand) now inside
  · exact inside
  refine Dialogue.Ensures.mono (models now inside brand.id) ?_
  rintro (e | model) now inside
  · exact inside
  obtain ⟨known, rfl⟩ := Option.isSome_iff_exists.1 inside
  refine ⟨fun attributes _ => ?_, fun _ _ => inside_some _⟩
  refine follows_single trivial (fun _ specsId _ => ?_) fun _ _ => inside_some _
  refine follows_single trivial (fun _ assetId _ => ?_) fun _ _ => inside_some _
  exact follows_single unassigned (fun _ _ _ => inside_some _) fun _ _ => inside_some _

end Assets

namespace Users

theorem dismiss_follows (actor : Actor) (id : Uuid) :
    (dismiss actor id).Ensures protocol (some {.nothingWritten}) (fun _ now => Inside now) fun _ now => Inside now := by
  simp only [dismiss, lock, Ledger.countAssignments, stampArchived, fetchOptional_eq_single, fetchOne_eq_single,
    execute_eq_single, ensures_bind, ensures_stored, ensures_pure, ensures_ite, ensures_throw]
  refine follows_single trivial (fun reply locked readsUser => ⟨fun _ => inside_some _, fun user => ?_⟩)
    fun _ _ => inside_some _
  obtain ⟨found, rfl⟩ := Option.ne_none_iff_exists'.1 (by simpa using user)
  refine follows_single trivial (fun reply' held readsCount => ⟨fun _ => inside_some _, fun nothing => ?_⟩)
    fun _ _ => inside_some _
  refine follows_single ?_ (fun _ _ _ => inside_some _) fun _ _ => inside_some _
  exact learn_new (.holdsNothing (learn_new (.userLocked readsUser)) readsCount nothing)

end Users

namespace Store

-- Otherwise the check is carried out wherever a goal is compared with what is ensured.
attribute [local irreducible] Assets.checkCreate

theorem follows_checked {α β : Type} {check : Except ServiceError α} {work : α → Operation β}
    (follows : ∀ a, check = .ok a → (work a).Ensures protocol (some {.nothingWritten}) (fun _ now => Inside now)
      fun _ now => Inside now) :
    (do let a ← Exchange.ofExcept check; transaction .ofStore (work a) : Operation β).Ensures protocol none
      (fun _ now => now = none) fun _ now => now = none := by
  rw [ensures_bind, ensures_ofExcept]
  exact ⟨fun a checked => follows_transaction (follows a checked), fun _ _ => rfl⟩

/-- Every call follows the protocol, whatever it is answered, and holds nothing in the end. -/
theorem calls_follow {m : Mutation} (lifecycle : InLifecycle m) :
    m.operation.Ensures protocol none (fun _ now => now = none) fun _ now => now = none := by
  cases m with
  | createAsset actor req => exact follows_checked fun r checked => Assets.register_follows actor checked
  | assignAsset req => exact follows_transaction (Assets.handOut_follows req)
  | retrieveAsset id => exact follows_transaction (Assets.takeBack_follows id)
  | archiveAsset actor id => exact follows_transaction (Assets.withdraw_follows actor id)
  | deleteUser actor id => exact follows_checked fun _ _ => Users.dismiss_follows actor id
  | updateAsset _ _ _ => exact lifecycle.elim
  | createUser _ _ _ => exact lifecycle.elim
  | updateUser _ _ _ _ => exact lifecycle.elim

/-- Every call of the life cycle keeps the protocol, whatever it is answered. -/
theorem callDialogue_follows {m : Mutation} (lifecycle : InLifecycle m) :
    (callDialogue m).Ensures protocol none fun _ now => now = none := by
  refine Dialogue.ensures_bind.2 (Dialogue.Ensures.mono (calls_follow lifecycle) ?_)
  rintro (e | a) now left
  · exact left
  · exact left

end Store
end AssetRegistry
