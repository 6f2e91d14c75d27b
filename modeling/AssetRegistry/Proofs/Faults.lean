import AssetRegistry.Proofs.Runs
import AssetRegistry.Proofs.Transactions

namespace AssetRegistry.Store

/-- A fault is the last answer, and the error says so. -/
def Exchange.Halts {ε α : Type} (blame : Fault → ε) (x : Exchange ε α) : Prop :=
  ∀ replies before m fault after, (x.run.against replies).1 = before ++ (m, .failed fault) :: after →
    after = [] ∧ (x.run.against replies).2 = .error (blame fault)

namespace Exchange
variable {ε ε' α β : Type} {blame : Fault → ε}

theorem halts_ofExcept (x : Except ε α) : (ofExcept x).Halts blame := by
  intro replies before m fault after occurs
  simp at occurs

theorem halts_pure (a : α) : (pure a : Exchange ε α).Halts blame := halts_ofExcept (.ok a)

theorem halts_throw (e : ε) : (throw e : Exchange ε α).Halts blame := halts_ofExcept (.error e)

theorem halts_single {q : Statement} {read : Reply → Except ε α}
    (blames : ∀ fault, read (.failed fault) = .error (blame fault)) : (single q read).Halts blame := by
  intro replies before m fault after occurs
  rw [against_single] at occurs ⊢
  cases before with
  | nil =>
    obtain ⟨same, rfl⟩ := List.cons.inj occurs
    exact ⟨rfl, by rw [(Prod.mk.inj same).2, blames]⟩
  | cons first earlier => simp at occurs

/-- After a fault in the first exchange the second one is not begun. -/
theorem Halts.bind {x : Exchange ε α} {f : α → Exchange ε β} (first : x.Halts blame) (rest : ∀ a, (f a).Halts blame) :
    (x >>= f).Halts blame := by
  intro replies before m fault after occurs
  cases result : (x.run.against replies).2 with
  | error e =>
    rw [against_bind_error result] at occurs ⊢
    obtain ⟨last, blamed⟩ := first replies before m fault after occurs
    obtain rfl : e = blame fault := Except.error.inj (result.symm.trans blamed)
    exact ⟨last, rfl⟩
  | ok a =>
    rw [against_bind_ok result] at occurs ⊢
    rcases found_in_append occurs with ⟨middle, inFirst, -⟩ | ⟨earlier, -, inRest⟩
    · have failed := (first replies before m fault middle inFirst).2
      rw [result] at failed
      cases failed
    · exact rest a _ _ _ _ _ inRest

theorem Halts.mapError {x : Exchange ε α} (halts : x.Halts blame) (f : ε → ε') :
    (x.mapError f).Halts fun fault => f (blame fault) := by
  intro replies before m fault after occurs
  rw [against_mapError] at occurs ⊢
  obtain ⟨last, blamed⟩ := halts replies before m fault after occurs
  exact ⟨last, by rw [blamed]; rfl⟩

theorem halts_ite {c : Prop} [Decidable c] {x y : Exchange ε α} (yes : x.Halts blame) (no : y.Halts blame) :
    (if c then x else y).Halts blame := by
  split
  · exact yes
  · exact no

end Exchange

open Exchange

theorem halts_execute (q : Statement) : (execute q).Halts StoreError.ofFault := by
  rw [execute_eq_single]
  exact halts_single fun _ => rfl

theorem halts_fetchOptional {α : Type} (q : Statement) (read : RowReader α) :
    (fetchOptional q read).Halts StoreError.ofFault := by
  rw [fetchOptional_eq_single]
  exact halts_single fun _ => rfl

theorem halts_fetchOne {α : Type} (q : Statement) (read : RowReader α) : (fetchOne q read).Halts StoreError.ofFault := by
  rw [fetchOne_eq_single]
  exact halts_single fun _ => rfl

theorem halts_fetchAll {α : Type} (q : Statement) (read : RowReader α) : (fetchAll q read).Halts StoreError.ofFault := by
  unfold fetchAll
  rw [rowsOf_eq_single]
  have rows : (single q Reply.toRows).Halts StoreError.ofFault := halts_single fun _ => rfl
  exact rows.bind fun _ => halts_ofExcept _

theorem halts_findOrInsert {α : Type} (find insert : Statement) (read : RowReader α) (missing : StoreError) :
    (findOrInsert find insert read missing).Halts StoreError.ofFault := by
  refine (halts_fetchOptional find read).bind fun found => ?_
  cases found with
  | some a => exact halts_pure a
  | none =>
    refine (halts_fetchOptional insert read).bind fun inserted => ?_
    cases inserted with
    | some a => exact halts_pure a
    | none =>
      refine (halts_fetchOptional find read).bind fun again => ?_
      cases again with
      | some a => exact halts_pure a
      | none => exact halts_throw missing

/-- A fault behind the beginning of a transaction is one of its work or one of its end. -/
theorem failed_in_work {opened : Reply} {work closing before after : List Event} {m : Message} {fault : Fault}
    (begun : opened.isFailed = false)
    (occurs : (.begin, opened) :: (work ++ closing) = before ++ (m, .failed fault) :: after) :
    (∃ earlier rest, work = earlier ++ (m, .failed fault) :: rest ∧ after = rest ++ closing) ∨
      ∃ earlier, closing = earlier ++ (m, .failed fault) :: after := by
  cases before with
  | nil =>
    obtain ⟨same, -⟩ := List.cons.inj occurs
    rw [(Prod.mk.inj same).2] at begun
    cases begun
  | cons first earlier =>
    obtain ⟨-, inRest⟩ := List.cons.inj occurs
    rcases found_in_append inRest with ⟨rest, inWork, atAfter⟩ | ⟨past, -, inClosing⟩
    · exact Or.inl ⟨earlier, rest, inWork, atAfter⟩
    · exact Or.inr ⟨past, inClosing⟩

/-- The fault of a message that is undone at once is the only one that counts. -/
theorem failed_before_undoing {sent m : Message} {found fault : Fault} {undone : Reply} {before after : List Event}
    (answered : m ≠ .rollback)
    (occurs : [(sent, .failed found), (.rollback, undone)] = before ++ (m, .failed fault) :: after) :
    m = sent ∧ fault = found ∧ after = [(.rollback, undone)] := by
  rcases List.cons_eq_append_iff.1 occurs with ⟨-, atFirst⟩ | ⟨earlier, -, atSecond⟩
  · simp only [List.cons.injEq, Prod.mk.injEq, Reply.failed.injEq] at atFirst
    exact ⟨atFirst.1.1, atFirst.1.2, atFirst.2⟩
  · have member : (m, .failed fault) ∈ [(Message.rollback, undone)] := by simp [atSecond]
    simp [answered] at member

/-- Where in a run of a transaction a fault may stand: at its beginning or at its commit, or at the end of its work. -/
theorem Settles.of_failed {ε α : Type} {blame : Fault → ε} {work : Exchange ε α} {events before after : List Event}
    {ended : Settled ε α} {m : Message} {fault : Fault} (settles : Settles work events ended) (halts : work.Halts blame)
    (occurs : events = before ++ (m, .failed fault) :: after) (answered : m ≠ .rollback) :
    (∃ undone, after = [(.rollback, undone)]) ∧
      ((m = .begin ∨ m = .commit) ∧ ended = .refused (.ofFault fault) ∨
        (∃ replies, (m, .failed fault) ∈ (work.run.against replies).1) ∧ ended = .withdrawn (blame fault)) := by
  cases settles with
  | notBegun found undone =>
    obtain ⟨rfl, rfl, rfl⟩ := failed_before_undoing answered occurs
    exact ⟨⟨undone, rfl⟩, Or.inl ⟨Or.inl rfl, rfl⟩⟩
  | @withdrawn opened replies e undone begun fails =>
    rcases failed_in_work begun occurs with ⟨earlier, rest, inWork, atAfter⟩ | ⟨earlier, inClosing⟩
    · obtain ⟨rfl, blamed⟩ := halts _ _ _ _ _ inWork
      obtain rfl : e = blame fault := Except.error.inj (fails.symm.trans blamed)
      exact ⟨⟨undone, atAfter⟩, Or.inr ⟨⟨replies, by simp [inWork]⟩, rfl⟩⟩
    · have member : (m, .failed fault) ∈ [(Message.rollback, undone)] := by simp [inClosing]
      simp [answered] at member
  | @notCommitted opened replies a found undone begun succeeds =>
    rcases failed_in_work begun occurs with ⟨earlier, rest, inWork, -⟩ | ⟨earlier, inClosing⟩
    · have blamed := (halts _ _ _ _ _ inWork).2
      rw [succeeds] at blamed
      cases blamed
    · obtain ⟨rfl, rfl, rfl⟩ := failed_before_undoing answered inClosing
      exact ⟨⟨undone, rfl⟩, Or.inl ⟨Or.inr rfl, rfl⟩⟩
  | @committed opened closed replies a begun succeeds acknowledged =>
    rcases failed_in_work begun occurs with ⟨earlier, rest, inWork, -⟩ | ⟨earlier, inClosing⟩
    · have blamed := (halts _ _ _ _ _ inWork).2
      rw [succeeds] at blamed
      cases blamed
    · have member : (m, .failed fault) ∈ [(Message.commit, closed)] := by simp [inClosing]
      simp only [List.mem_singleton, Prod.mk.injEq] at member
      rw [← member.2] at acknowledged
      cases acknowledged

end AssetRegistry.Store

namespace AssetRegistry
open Store Exchange

/-- The kind of an error is as a code tells it. -/
structure ServiceError.Classified (code : String) (e : ServiceError) : Prop where
  conflict : code = "23505" → ∃ message, e = .conflict message
  notFound : code = "23503" → ∃ message, e = .notFound message
  persistence : code ≠ "23505" → code ≠ "23503" → ∃ cause, e = .persistence cause

/-- What the caller of an operation learns of a fault. -/
def ServiceError.ofFault (fault : Fault) : ServiceError := .ofStore (.ofFault fault)

/-- The code of a fault alone decides the kind of the error. -/
theorem ServiceError.classified_ofFault (fault : Fault) : (ofFault fault).Classified fault.code := by
  unfold ofFault StoreError.ofFault uniqueViolation foreignKeyViolation
  refine ⟨fun unique => ?_, fun foreign => ?_, fun notUnique notForeign => ?_⟩
  · rw [if_pos unique]
    exact ⟨_, rfl⟩
  · rw [if_neg (by simp [foreign]), if_pos foreign]
    exact ⟨_, rfl⟩
  · rw [if_neg notUnique, if_neg notForeign]
    exact ⟨_, rfl⟩

namespace Service

/-- After a fault nothing is sent but a rollback, and the error is told by the fault's code. -/
structure Stopped {α : Type} (fault : Fault) (after : List Event) (result : Except ServiceError α) : Prop where
  silent : after = [] ∨ ∃ undone, after = [(.rollback, undone)]
  classified : ∃ e, result = .error e ∧ e.Classified fault.code

theorem stopped_ofFault {α : Type} {fault : Fault} {after : List Event} {result : Except ServiceError α}
    (silent : after = [] ∨ ∃ undone, after = [(.rollback, undone)]) (fails : result = .error (.ofFault fault)) :
    Stopped fault after result :=
  ⟨silent, _, fails, ServiceError.classified_ofFault fault⟩

/-- A fault stops the operation wherever it stands; only that of a rollback does not matter. -/
def Stops {α : Type} (x : Operation α) : Prop :=
  ∀ replies before m fault after, (x.run.against replies).1 = before ++ (m, .failed fault) :: after → m ≠ .rollback →
    Stopped fault after (x.run.against replies).2

variable {α β : Type}

theorem halts_stored {x : Exchange StoreError α} (halts : x.Halts StoreError.ofFault) :
    (stored x).Halts ServiceError.ofFault := halts.mapError _

theorem halts_attributes {x : Exchange AttributesError α} (halts : x.Halts fun fault => .store (.ofFault fault)) :
    (x.mapError ServiceError.ofAttributes : Operation α).Halts ServiceError.ofFault := halts.mapError _

/-- Outside of transactions nothing follows a fault. -/
theorem stops_of_halts {x : Operation α} (halts : x.Halts ServiceError.ofFault) : Stops x := by
  intro replies before m fault after occurs _
  obtain ⟨last, blamed⟩ := halts replies before m fault after occurs
  exact stopped_ofFault (Or.inl last) blamed

/-- Inside of one the rollback is all that follows. -/
theorem stops_transaction {work : Operation α} (halts : work.Halts ServiceError.ofFault) :
    Stops (transaction .ofStore work) := by
  intro replies before m fault after occurs answered
  rw [against_transaction] at occurs ⊢
  obtain ⟨undone, ended⟩ := (Dialogue.settles work replies).of_failed halts occurs answered
  refine stopped_ofFault (Or.inr undone) ?_
  rcases ended with ⟨-, ended⟩ | ⟨-, ended⟩
  · rw [ended]
    rfl
  · rw [ended]
    rfl

/-- What comes before a transaction stops at a fault before the transaction begins. -/
theorem stops_bind {x : Operation α} {f : α → Operation β} (first : x.Halts ServiceError.ofFault)
    (rest : ∀ a, Stops (f a)) : Stops (x >>= f) := by
  intro replies before m fault after occurs answered
  cases result : (x.run.against replies).2 with
  | error e =>
    rw [against_bind_error result] at occurs ⊢
    obtain ⟨last, blamed⟩ := first replies before m fault after occurs
    obtain rfl : e = .ofFault fault := Except.error.inj (result.symm.trans blamed)
    exact stopped_ofFault (Or.inl last) rfl
  | ok a =>
    rw [against_bind_ok result] at occurs ⊢
    rcases found_in_append occurs with ⟨middle, inFirst, -⟩ | ⟨earlier, -, inRest⟩
    · have failed := (first replies before m fault middle inFirst).2
      rw [result] at failed
      cases failed
    · exact rest a _ _ _ _ _ inRest answered

end Service

open Service

namespace Assets

theorem halts_register (actor : Actor) (req : CreateAsset) (r : Registration) :
    (register actor req r).Halts ServiceError.ofFault := by
  refine (halts_stored (halts_findOrInsert _ _ _ _)).bind fun brand => ?_
  refine (halts_stored (halts_findOrInsert _ _ _ _)).bind fun model => ?_
  have attributes := (halts_ofExcept (Attributes.check r.assetType req.specs)).bind fun attributes =>
    (halts_fetchOne (.insertAttributes attributes) (Row.scalar .uuid)).mapError AttributesError.store
  refine (halts_attributes attributes).bind fun specsId => ?_
  refine (halts_stored (halts_fetchOne _ _)).bind fun assetId => ?_
  exact (halts_stored (halts_fetchOne _ _)).bind fun _ => halts_pure assetId

theorem halts_find (id : Uuid) : (find id).Halts ServiceError.ofFault := by
  refine (halts_stored (halts_fetchOptional _ _)).bind fun found => ?_
  cases found with
  | some asset => exact halts_pure asset
  | none => exact halts_throw _

theorem halts_apply (t : AssetType) (id : Uuid) (payload : Json) :
    (AttributesPatch.apply t id payload).Halts fun fault => .store (.ofFault fault) := by
  refine (halts_ofExcept _).bind fun patch => ?_
  refine halts_ite (halts_pure ()) (((halts_execute _).mapError _).bind fun count => ?_)
  exact halts_ite (halts_throw _) (halts_pure ())

theorem halts_writeUpdate (actor : Actor) (id : Uuid) (existing : Asset) (fields : AssetPatch) (specs : Option Json) :
    (writeUpdate actor id existing fields specs).Halts ServiceError.ofFault := by
  refine (halts_stored ((halts_execute _).bind fun _ => halts_pure _)).bind fun written => ?_
  refine halts_ite (halts_throw _) ?_
  cases specs with
  | none => exact halts_pure ()
  | some payload => exact halts_attributes (halts_apply _ _ _)

theorem halts_lock (id : Uuid) : (stored (lock id)).Halts ServiceError.ofFault :=
  halts_stored ((halts_fetchOptional _ _).bind fun _ => halts_pure _)

theorem halts_isAvailable (id : Uuid) : (stored (Ledger.isAvailable id)).Halts ServiceError.ofFault :=
  halts_stored ((halts_fetchOne _ _).bind fun _ => halts_pure _)

theorem halts_handOut (req : AssignAsset) : (handOut req).Halts ServiceError.ofFault := by
  refine (halts_lock _).bind fun _ => halts_ite (halts_throw _) ?_
  refine (halts_stored (halts_fetchOptional _ _)).bind fun _ => halts_ite (halts_throw _) ?_
  refine (halts_isAvailable _).bind fun _ => halts_ite (halts_throw _) ?_
  exact halts_stored (halts_fetchOne _ _)

theorem halts_takeBack (id : Uuid) : (takeBack id).Halts ServiceError.ofFault := by
  refine (halts_lock _).bind fun _ => halts_ite (halts_throw _) ?_
  refine (halts_stored (halts_fetchOptional _ _)).bind fun found => ?_
  cases found with
  | none => exact halts_throw _
  | some entry =>
    exact (halts_stored ((halts_execute _).bind fun _ => halts_pure _)).bind fun _ => halts_pure ()

theorem halts_withdraw (actor : Actor) (id : Uuid) : (withdraw actor id).Halts ServiceError.ofFault := by
  refine (halts_lock _).bind fun _ => halts_ite (halts_throw _) ?_
  refine (halts_isAvailable _).bind fun _ => halts_ite (halts_throw _) ?_
  exact (halts_stored ((halts_execute _).bind fun _ => halts_pure _)).bind fun _ => halts_pure ()

end Assets

namespace Users

theorem halts_insert (user : NewUser) : (insert user).Halts StoreError.ofFault := by
  refine (halts_fetchOne _ _).bind fun created => ?_
  exact ((halts_execute _).bind fun _ => halts_pure ()).bind fun _ => halts_pure created

theorem halts_enrol (user : NewUser) : (enrol user).Halts ServiceError.ofFault := by
  refine (halts_stored (halts_fetchOptional _ _)).bind fun _ => halts_ite (halts_throw _) ?_
  exact halts_stored (halts_insert user)

theorem halts_change (actor : Actor) (id : Uuid) (patch : UserPatch) :
    (change actor id patch).Halts ServiceError.ofFault := by
  refine (halts_stored (halts_fetchOptional _ _)).bind fun written => ?_
  cases written with
  | none => exact halts_throw _
  | some user => exact halts_pure user

theorem halts_dismiss (actor : Actor) (id : Uuid) : (dismiss actor id).Halts ServiceError.ofFault := by
  refine (halts_stored ((halts_fetchOptional _ _).bind fun _ => halts_pure _)).bind fun _ => ?_
  refine halts_ite (halts_throw _) ((halts_stored (halts_fetchOne _ _)).bind fun held => ?_)
  refine halts_ite (halts_throw _) ?_
  exact (halts_stored ((halts_execute _).bind fun _ => halts_pure _)).bind fun _ => halts_pure ()

theorem halts_details (id : Uuid) : (details id).Halts ServiceError.ofFault := by
  refine (halts_stored ((halts_ofExcept _).bind fun _ => halts_fetchOptional _ _)).bind fun found => ?_
  cases found with
  | none => exact halts_throw _
  | some user => exact (halts_stored (halts_fetchAll _ _)).bind fun _ => halts_pure _

/-- What a log-in does once its user is known. -/
def signIn (desk : Desk) (req : Login) (user : User) : Operation LoginResponse := do
  let held ← stored (roles user.id)
  Exchange.ofExcept do
    let role ← pickRole held req.role
    let accessToken ← authorized (desk.issuer.issueAccess desk.now user.id role)
    let refreshToken ← authorized (desk.issuer.issueRefresh desk.now user.id)
    pure { accessToken, refreshToken := some refreshToken, role, user := some user }

/-- The second look for a user whose address has just been taken. -/
def lookAgain (email : String) : Operation User := do
  match ← stored (lookUpByEmail email) with
  | some user => pure user
  | none => throw emailTaken

/-- A log-in with a good address finds its user or makes one, and then signs the user in. -/
theorem login_of_valid {desk : Desk} {req : Login} {email : String}
    (validated : desk.policy.validate req.email = .ok email) :
    login desk req = findOrProvision email >>= signIn desk req := by
  unfold login
  rw [validated]
  rfl

theorem login_of_invalid {desk : Desk} {req : Login} {e : AuthError}
    (refused : desk.policy.validate req.email = .error e) : login desk req = throw (.ofAuth e) := by
  unfold login
  rw [refused]
  rfl

theorem halts_signIn (desk : Desk) (req : Login) (user : User) : (signIn desk req user).Halts ServiceError.ofFault :=
  (halts_stored (halts_fetchAll _ _)).bind fun _ => halts_ofExcept _

theorem halts_lookAgain (email : String) : (lookAgain email).Halts ServiceError.ofFault := by
  refine (halts_stored (halts_fetchOptional _ _)).bind fun found => ?_
  cases found with
  | none => exact halts_throw _
  | some user => exact halts_pure user

/-- The message inserts a user or gives one a role. -/
inductive Inserts : Message → Prop
  | user (user : NewUser) : Inserts (.statement (.insertUser user))
  | role (userId : Uuid) (role : Role) : Inserts (.statement (.addRole userId role))

/-- To insert a user takes statements that insert, and no others. -/
theorem sends_insert (user : NewUser) : (insert user).Sends Inserts := by
  refine Sends.bind (by simpa [Sends] using Inserts.user user) fun created => ?_
  refine Sends.bind (Sends.bind ?_ fun _ => sends_pure ()) fun _ => sends_pure created
  rw [execute_eq_single]
  exact sends_single _ (.role _ _)

/-- How a first log-in goes on after its transaction. -/
def resume (email : String) : Settled StoreError User → Operation User
  | .committed user => pure user
  | .withdrawn (.conflict _) => lookAgain email
  | .withdrawn e => throw (.ofStore e)
  | .refused e => throw (.ofStore e)

/-- A newcomer is inserted in one transaction, and its end decides how the log-in goes on. -/
theorem provision_eq (email : String) :
    provision email = ExceptT.mk (settle (insert (newcomer email)) >>= fun ended => (resume email ended).run) := by
  unfold provision
  congr 2

/-- What follows upon the fault of a first log-in whose address has just been taken: all is undone, the address is looked
up once more, and the log-in goes on with the user who is found. -/
def Retried (desk : Desk) (req : Login) (before after : List Event) (result : Except ServiceError LoginResponse) : Prop :=
  ∃ email first undone again rest, desk.policy.validate req.email = .ok email ∧
    before.head? = some (.statement (.findUserByEmail email), first) ∧
    after = (.rollback, undone) :: (.statement (.findUserByEmail email), again) :: rest ∧
    match Reply.first? User.ofRow again with
    | .ok (some user) => ∃ replies, (signIn desk req user).run.against replies = (rest, result)
    | .ok none => rest = [] ∧ ∃ message, result = .error (.conflict message)
    | .error e => rest = [] ∧ result = .error (.ofStore e)

theorem sends_signIn (desk : Desk) (req : Login) (user : User) : (signIn desk req user).Sends (¬Inserts ·) := by
  refine Sends.bind (Sends.mapError ?_ _) fun held => by simp [Sends]
  unfold roles fetchAll
  rw [rowsOf_eq_single]
  exact Sends.bind (sends_single _ (by rintro ⟨⟩)) fun rows => by simp [Sends]

theorem sends_lookAgain (email : String) : (lookAgain email).Sends (¬Inserts ·) := by
  refine Sends.bind (Sends.mapError ?_ _) fun found => ?_
  · unfold lookUpByEmail
    rw [fetchOptional_eq_single]
    exact sends_single _ (by rintro ⟨⟩)
  · cases found with
    | none => exact sends_throw _
    | some user => exact sends_pure user

/-- A fault in the transaction of a newcomer. -/
theorem newcomer_faults {email : String} {events before after : List Event} {ended : Settled StoreError User} {m : Message}
    {fault : Fault} (settles : Settles (insert (newcomer email)) events ended)
    (occurs : events = before ++ (m, .failed fault) :: after) (answered : m ≠ .rollback) :
    (∃ undone, after = [(.rollback, undone)]) ∧
      (fault.code = "23505" ∧ Inserts m ∧ (∃ constraint, ended = .withdrawn (.conflict constraint)) ∨
        ¬(fault.code = "23505" ∧ Inserts m) ∧ resume email ended = throw (.ofFault fault)) := by
  obtain ⟨undone, ⟨closes, ended⟩ | ⟨⟨replies, member⟩, ended⟩⟩ := settles.of_failed (halts_insert _) occurs answered
  · have notInserting : ¬Inserts m := by
      rcases closes with rfl | rfl <;> rintro ⟨⟩
    exact ⟨undone, Or.inr ⟨fun both => notInserting both.2, by rw [ended]; rfl⟩⟩
  · have inserting : Inserts m := (sends_insert _).mem member
    refine ⟨undone, ?_⟩
    by_cases unique : fault.code = "23505"
    · have conflicts : StoreError.ofFault fault = .conflict fault.constraint := if_pos unique
      exact Or.inl ⟨unique, inserting, fault.constraint, by rw [ended, conflicts]⟩
    · refine Or.inr ⟨fun both => unique both.1, ?_⟩
      rw [ended]
      unfold ServiceError.ofFault StoreError.ofFault uniqueViolation
      rw [if_neg unique]
      split <;> rfl

/-- A fault stops an operation that inserts nobody. -/
theorem stopped_of_halts {α : Type} {x : Operation α} (halts : x.Halts ServiceError.ofFault) (sends : x.Sends (¬Inserts ·))
    {replies : Nat → Reply} {before after : List Event} {m : Message} {fault : Fault}
    (occurs : (x.run.against replies).1 = before ++ (m, .failed fault) :: after) :
    ¬Inserts m ∧ Stopped fault after (x.run.against replies).2 := by
  obtain ⟨last, blamed⟩ := halts replies before m fault after occurs
  have member : (m, .failed fault) ∈ (x.run.against replies).1 := by simp [occurs]
  exact ⟨sends.mem member, stopped_ofFault (Or.inl last) blamed⟩

theorem stored_lookUpByEmail (email : String) :
    stored (lookUpByEmail email) =
      single (.findUserByEmail email) fun reply => (Reply.first? User.ofRow reply).mapError .ofStore := by
  unfold stored lookUpByEmail
  rw [fetchOptional_eq_single, mapError_single]

/-- The second look sends one statement, and goes on to sign in only if it finds a user. -/
theorem lookAgain_run (desk : Desk) (req : Login) (email : String) (replies : Nat → Reply) :
    ∃ rest result, (lookAgain email >>= signIn desk req).run.against replies =
        ((.statement (.findUserByEmail email), replies 0) :: rest, result) ∧
      match Reply.first? User.ofRow (replies 0) with
      | .ok (some user) => ∃ replies, (signIn desk req user).run.against replies = (rest, result)
      | .ok none => rest = [] ∧ ∃ message, result = .error (.conflict message)
      | .error e => rest = [] ∧ result = .error (.ofStore e) := by
  unfold lookAgain
  rw [stored_lookUpByEmail, Exchange.bind_bind]
  cases found : Reply.first? User.ofRow (replies 0) with
  | error e => exact ⟨[], _, against_single_error (by rw [found]; rfl), rfl, rfl⟩
  | ok found' =>
    refine ⟨_, _, against_single_ok (a := found') (by rw [found]; rfl), ?_⟩
    cases found' with
    | none => exact ⟨rfl, _, rfl⟩
    | some user => exact ⟨fun i => replies (i + 1), rfl⟩

theorem halts_resume (email : String) (ended : Settled StoreError User) :
    (resume email ended).Halts ServiceError.ofFault := by
  rcases ended with user | e | e
  · exact halts_pure user
  · cases e with
    | conflict constraint => exact halts_lookAgain email
    | _ => exact halts_throw _
  · exact halts_throw _

theorem sends_resume (email : String) (ended : Settled StoreError User) : (resume email ended).Sends (¬Inserts ·) := by
  rcases ended with user | e | e
  · exact sends_pure user
  · cases e with
    | conflict constraint => exact sends_lookAgain email
    | _ => exact sends_throw _
  · exact sends_throw _

/-- A log-in whose address nobody has yet. -/
theorem provision_faults (desk : Desk) (req : Login) {email : String} {replies : Nat → Reply} {before after : List Event}
    {m : Message} {fault : Fault} {run : List Event × Except ServiceError LoginResponse}
    (runs : (provision email >>= signIn desk req).run.against replies = run)
    (occurs : run.1 = before ++ (m, .failed fault) :: after) (answered : m ≠ .rollback) :
    (fault.code = "23505" ∧ Inserts m ∧ ∃ undone replies,
        after = (.rollback, undone) :: ((lookAgain email >>= signIn desk req).run.against replies).1 ∧
        run.2 = ((lookAgain email >>= signIn desk req).run.against replies).2) ∨
      ¬(fault.code = "23505" ∧ Inserts m) ∧ Stopped fault after run.2 := by
  have settles := Dialogue.settles (insert (newcomer email)) replies
  rw [provision_eq, against_resume] at runs
  subst runs
  rcases found_in_append occurs with ⟨rest, inSettling, atAfter⟩ | ⟨earlier, -, inRest⟩
  · obtain ⟨⟨undone, rfl⟩, ⟨unique, inserting, constraint, ended⟩ | ⟨stops, resumed⟩⟩ :=
      newcomer_faults settles inSettling answered
    · refine Or.inl ⟨unique, inserting, undone,
        later replies ((settle (insert (newcomer email))).against replies).1, ?_, ?_⟩
      · rw [atAfter, ended]
        rfl
      · rw [ended]
        rfl
    · have throws : resume email ((settle (insert (newcomer email))).against replies).2 >>= signIn desk req =
          throw (.ofFault fault) := by rw [resumed]; rfl
      rw [throws, against_throw] at atAfter ⊢
      exact Or.inr ⟨stops, stopped_ofFault (Or.inr ⟨undone, atAfter⟩) rfl⟩
  · have halts := (halts_resume email ((settle (insert (newcomer email))).against replies).2).bind (halts_signIn desk req)
    have sends := (sends_resume email ((settle (insert (newcomer email))).against replies).2).bind (sends_signIn desk req)
    obtain ⟨notInserting, stopped⟩ := stopped_of_halts halts sends inRest
    exact Or.inr ⟨fun both => notInserting both.2, stopped⟩

/-- A fault in a log-in: either the address of a newcomer has just been taken, or the log-in stops. -/
theorem login_faults (desk : Desk) (req : Login) {replies : Nat → Reply} {before after : List Event} {m : Message}
    {fault : Fault} (occurs : ((login desk req).run.against replies).1 = before ++ (m, .failed fault) :: after)
    (answered : m ≠ .rollback) :
    (fault.code = "23505" ∧ Inserts m ∧ Retried desk req before after ((login desk req).run.against replies).2) ∨
      ¬(fault.code = "23505" ∧ Inserts m) ∧ Stopped fault after ((login desk req).run.against replies).2 := by
  cases validated : desk.policy.validate req.email with
  | error e =>
    rw [login_of_invalid validated, against_throw] at occurs
    simp at occurs
  | ok email =>
    rw [login_of_valid validated] at occurs ⊢
    unfold findOrProvision at occurs ⊢
    rw [stored_lookUpByEmail, Exchange.bind_bind] at occurs ⊢
    cases looked : Reply.first? User.ofRow (replies 0) with
    | error e =>
      rw [against_single_error (e := .ofStore e) (by rw [looked]; rfl)] at occurs ⊢
      cases before with
      | nil =>
        obtain ⟨same, rfl⟩ := List.cons.inj occurs
        obtain ⟨rfl, failed⟩ := Prod.mk.inj same
        rw [failed] at looked
        obtain rfl := Except.error.inj looked
        exact Or.inr ⟨by rintro ⟨-, ⟨⟩⟩, stopped_ofFault (Or.inl rfl) rfl⟩
      | cons first earlier => simp at occurs
    | ok found =>
      rw [against_single_ok (a := found) (by rw [looked]; rfl)] at occurs ⊢
      cases before with
      | nil =>
        obtain ⟨same, -⟩ := List.cons.inj occurs
        rw [(Prod.mk.inj same).2] at looked
        cases looked
      | cons first earlier =>
        obtain ⟨rfl, inRest⟩ := List.cons.inj occurs
        cases found with
        | some user =>
          obtain ⟨notInserting, stopped⟩ :=
            stopped_of_halts (halts_signIn desk req user) (sends_signIn desk req user) inRest
          exact Or.inr ⟨fun both => notInserting both.2, stopped⟩
        | none =>
          obtain ⟨unique, inserting, undone, left, rfl, result⟩ | stops := provision_faults desk req rfl inRest answered
          · obtain ⟨rest, ended, run, goesOn⟩ := lookAgain_run desk req email left
            rw [run] at result ⊢
            exact Or.inl ⟨unique, inserting, email, replies 0, undone, left 0, rest, validated, rfl, rfl, result ▸ goesOn⟩
          · exact Or.inr stops

end Users

namespace Service

/-- The public operations of the registry. -/
inductive Call where
  | mutation (m : Mutation)
  | findAsset (id : Uuid)
  | assetDetail (id : Uuid)
  | isAvailable (assetId : Uuid)
  | listAssets (filter : AssetFilter) (page : Query.Page)
  | assetTimeline (assetId : Uuid)
  | assetsOfUser (userId : Uuid)
  | login (desk : Users.Desk) (req : Login)
  | refresh (desk : Users.Desk) (req : Refresh)
  | listUsers (filter : UserFilter) (page : Query.Page)
  | userDetails (id : Uuid)
  | userTimeline (id : Uuid)
  | activeAssignments (userId : Uuid)

namespace Call

/-- What a call gives its caller. -/
def Result : Call → Type
  | mutation m => m.Result
  | findAsset _ => Asset
  | assetDetail _ => AssetDetail
  | isAvailable _ => Bool
  | listAssets _ _ => List AssetSummary
  | assetTimeline _ => List AssetEvent
  | assetsOfUser _ | userTimeline _ => List UserEvent
  | login _ _ | refresh _ _ => Users.LoginResponse
  | listUsers _ _ => List UserSummary
  | userDetails _ => UserDetails
  | activeAssignments _ => Int64

/-- What is sent to carry a call out. -/
def operation : (call : Call) → Operation call.Result
  | mutation m => m.operation
  | findAsset id => Assets.find id
  | assetDetail id => Assets.detail id
  | isAvailable assetId => Assets.isAvailable assetId
  | listAssets filter page => Assets.list filter page
  | assetTimeline assetId => Assets.timeline assetId
  | assetsOfUser userId => Assets.userTimeline userId
  | login desk req => Users.login desk req
  | refresh desk req => Users.refresh desk req
  | listUsers filter page => Users.list filter page
  | userDetails id => Users.details id
  | userTimeline id => Users.timeline id
  | activeAssignments userId => Users.activeAssignments userId

/-- The fault means that the address of a newcomer has just been taken. -/
def Forestalled : Call → Message → Fault → Prop
  | login _ _, m, fault => fault.code = "23505" ∧ Users.Inserts m
  | _, _, _ => False

/-- What the call does when the address of a newcomer has just been taken. -/
def Retries (before after : List Event) : (call : Call) → Except ServiceError call.Result → Prop
  | login desk req, result => Users.Retried desk req before after result
  | _, _ => False

end Call

/-- A change stops at its first fault. -/
theorem Mutation.stops (m : Mutation) : Stops m.operation := by
  cases m with
  | createAsset actor req =>
    exact stops_bind (halts_ofExcept _) fun r => stops_transaction (Assets.halts_register actor req r)
  | updateAsset actor id req =>
    refine stops_bind (Assets.halts_find id) fun existing => stops_bind (halts_ofExcept _) fun fields => ?_
    exact stops_transaction (Assets.halts_writeUpdate actor id existing fields req.payload?)
  | assignAsset req => exact stops_transaction (Assets.halts_handOut req)
  | retrieveAsset id => exact stops_transaction (Assets.halts_takeBack id)
  | archiveAsset actor id => exact stops_transaction (Assets.halts_withdraw actor id)
  | createUser desk actor req =>
    exact stops_bind (halts_ofExcept _) fun user => stops_transaction (Users.halts_enrol user)
  | updateUser desk actor id patch =>
    exact stops_bind (halts_ofExcept _) fun patch => stops_transaction (Users.halts_change actor id patch)
  | deleteUser actor id =>
    exact stops_bind (halts_ofExcept _) fun _ => stops_transaction (Users.halts_dismiss actor id)

/-- A list is checked before it is fetched, and the check has no faults. -/
theorem halts_fetchChecked {α : Type} (checked : Exchange StoreError Query.Rendered) (q : Query.Rendered → Statement)
    (read : RowReader α) (checks : checked.Halts StoreError.ofFault) :
    (stored (checked >>= fun rendered => fetchAll (q rendered) read)).Halts ServiceError.ofFault :=
  halts_stored (checks.bind fun _ => halts_fetchAll _ _)

theorem halts_detail (id : Uuid) : (Assets.detail id).Halts ServiceError.ofFault := by
  refine (Assets.halts_find id).bind fun asset => ?_
  have attributes : (Attributes.get asset.assetType asset.specsId).Halts fun fault => .store (.ofFault fault) := by
    refine Halts.mapError (Halts.bind (halts_fetchOptional _ _) fun found => ?_) _
    cases found with
    | none => exact halts_throw _
    | some attributes => exact halts_pure attributes
  exact (halts_attributes attributes).bind fun _ => halts_pure _

theorem halts_timeline (assetId : Uuid) : (Assets.timeline assetId).Halts ServiceError.ofFault :=
  (halts_stored (halts_fetchOne _ _)).bind fun _ => halts_ite (halts_throw _) (halts_stored (halts_fetchAll _ _))

theorem halts_refresh (desk : Users.Desk) (req : Refresh) : (Users.refresh desk req).Halts ServiceError.ofFault := by
  refine (halts_ofExcept _).bind fun pair => (halts_stored (halts_fetchOptional _ _)).bind fun found => ?_
  exact halts_ite (halts_throw _) ((halts_stored (halts_fetchAll _ _)).bind fun _ => halts_ofExcept _)

/-- A fault stops every operation where it stands, up to a first log-in whose address has just been taken. -/
theorem Call.faults (call : Call) {replies : Nat → Reply} {before after : List Event} {m : Message} {fault : Fault}
    (occurs : (call.operation.run.against replies).1 = before ++ (m, .failed fault) :: after) (answered : m ≠ .rollback) :
    call.Forestalled m fault ∧ call.Retries before after (call.operation.run.against replies).2 ∨
      ¬call.Forestalled m fault ∧ Stopped fault after (call.operation.run.against replies).2 := by
  have stops {x : Operation call.Result} (halts : x.Halts ServiceError.ofFault) : Stops x := stops_of_halts halts
  cases call with
  | login desk req =>
    obtain ⟨unique, inserting, retried⟩ | stopped := Users.login_faults desk req occurs answered
    · exact Or.inl ⟨⟨unique, inserting⟩, retried⟩
    · exact Or.inr stopped
  | mutation m => exact Or.inr ⟨id, m.stops _ _ _ _ _ occurs answered⟩
  | findAsset id => exact Or.inr ⟨False.elim, stops (Assets.halts_find id) _ _ _ _ _ occurs answered⟩
  | assetDetail id => exact Or.inr ⟨False.elim, stops (halts_detail id) _ _ _ _ _ occurs answered⟩
  | isAvailable id => exact Or.inr ⟨False.elim, stops (Assets.halts_isAvailable id) _ _ _ _ _ occurs answered⟩
  | listAssets filter page =>
    exact Or.inr ⟨False.elim, stops (halts_fetchChecked _ _ _ (halts_ofExcept _)) _ _ _ _ _ occurs answered⟩
  | assetTimeline id => exact Or.inr ⟨False.elim, stops (halts_timeline id) _ _ _ _ _ occurs answered⟩
  | assetsOfUser id => exact Or.inr ⟨False.elim, stops (halts_stored (halts_fetchAll _ _)) _ _ _ _ _ occurs answered⟩
  | refresh desk req => exact Or.inr ⟨False.elim, stops (halts_refresh desk req) _ _ _ _ _ occurs answered⟩
  | listUsers filter page =>
    exact Or.inr ⟨False.elim, stops (halts_fetchChecked _ _ _ (halts_ofExcept _)) _ _ _ _ _ occurs answered⟩
  | userDetails id => exact Or.inr ⟨False.elim, stops (Users.halts_details id) _ _ _ _ _ occurs answered⟩
  | userTimeline id => exact Or.inr ⟨False.elim, stops (halts_stored (halts_fetchAll _ _)) _ _ _ _ _ occurs answered⟩
  | activeAssignments id => exact Or.inr ⟨False.elim, stops (halts_stored (halts_fetchOne _ _)) _ _ _ _ _ occurs answered⟩

/-- Whatever the store answers, the first fault ends a call, its code tells the kind of the error, and nothing but a
rollback follows. Only a first log-in whose address has just been taken looks once more and goes on. -/
theorem faults_end_calls (call : Call) (replies : Nat → Reply) (before after : List Event) (m : Message) (fault : Fault)
    (occurs : (call.operation.run.against replies).1 = before ++ (m, .failed fault) :: after) (answered : m ≠ .rollback) :
    (call.Forestalled m fault → call.Retries before after (call.operation.run.against replies).2) ∧
      (¬call.Forestalled m fault → Stopped fault after (call.operation.run.against replies).2) := by
  obtain ⟨forestalled, retries⟩ | ⟨calm, stopped⟩ := call.faults occurs answered
  · exact ⟨fun _ => retries, fun calm => absurd forestalled calm⟩
  · exact ⟨fun forestalled => absurd forestalled calm, fun _ => stopped⟩

/-- The clock stands at zero, and access tokens last a minute. -/
def frontDesk : Users.Desk where
  issuer := { secret := [1], accessLifetime := 60, refreshLifetime := 3600 }
  policy := .ofDomain "acme.com"
  now := ⟨0⟩

/-- A first log-in that asks for no role. -/
def raceLogin : Login := { email := "ann@acme.com", role := none }

/-- The fault of the unique index on the addresses of live users. -/
def addressTaken : Fault :=
  { code := "23505", message := "duplicate key", constraint := some "users_active_email_key" }

/-- Nobody has the address at first. The insertion finds that it has just been taken, and the second look finds by
whom. -/
def raceReplies : Nat → Reply
  | 0 => .rows []
  | 2 => .failed addressTaken
  | 4 => .rows [[("id", .uuid (.ofNat 4)), ("name", .text "Ann"), ("email", .text "ann@acme.com"), ("phone", .null),
      ("user_type", .text "full_time"), ("created_at", .instant ⟨0⟩), ("updated_at", .null), ("updated_by", .null),
      ("archived_at", .null)]]
  | 5 => .rows [[("role", .text "employee")]]
  | _ => .affected 0

theorem frontDesk_validates : frontDesk.policy.validate raceLogin.email = .ok "ann@acme.com" := by
  have normalized : Text.lower (Text.trim raceLogin.email) = "ann@acme.com" := by decide +kernel
  unfold EmailPolicy.validate
  rw [normalized]
  exact if_pos (by decide +kernel)

theorem race_events : ((Call.login frontDesk raceLogin).operation.run.against raceReplies).1 =
    [(.statement (.findUserByEmail "ann@acme.com"), raceReplies 0), (.begin, raceReplies 1)] ++
      (.statement (.insertUser (Users.newcomer "ann@acme.com")), .failed addressTaken) ::
      [(.rollback, raceReplies 3), (.statement (.findUserByEmail "ann@acme.com"), raceReplies 4),
        (.statement (.rolesOf (.ofNat 4)), raceReplies 5)] := by
  show ((Users.login frontDesk raceLogin).run.against raceReplies).1 = _
  rw [Users.login_of_valid frontDesk_validates]
  rfl

/-- The log-in goes on after the fault, and succeeds. -/
theorem race_retried : (Call.login frontDesk raceLogin).Retries
    [(.statement (.findUserByEmail "ann@acme.com"), raceReplies 0), (.begin, raceReplies 1)]
    [(.rollback, raceReplies 3), (.statement (.findUserByEmail "ann@acme.com"), raceReplies 4),
      (.statement (.rolesOf (.ofNat 4)), raceReplies 5)]
    ((Call.login frontDesk raceLogin).operation.run.against raceReplies).2 ∧
    ((Users.login frontDesk raceLogin).run.against raceReplies).2.isOk = true :=
  ⟨(faults_end_calls (.login frontDesk raceLogin) raceReplies _ _ _ _ race_events (by simp)).1 ⟨rfl, .user _⟩,
    by decide +kernel⟩

end Service
end AssetRegistry
