import AssetRegistry.Proofs.Authority
import AssetRegistry.Proofs.Faults

namespace AssetRegistry.Store

/-- The faults differ in their texts at most. -/
structure Fault.Alike (f g : Fault) : Prop where
  code : f.code = g.code
  constraint : f.constraint = g.constraint

/-- The replies differ in the text of a fault at most. -/
inductive Reply.Alike : Reply → Reply → Prop
  | same (reply : Reply) : Alike reply reply
  | failed {f g : Fault} : f.Alike g → Alike (.failed f) (.failed g)

/-- Two dialogues send the same as long as their replies are alike, and their ends are related. -/
inductive Dialogue.Keeps {α β : Type} (ends : α → β → Prop) : Dialogue α → Dialogue β → Prop
  | done {a : α} {b : β} : ends a b → Keeps ends (.done a) (.done b)
  | send {m : Message} {next : Reply → Dialogue α} {next' : Reply → Dialogue β} :
      (∀ reply reply', reply.Alike reply' → Keeps ends (next reply) (next' reply')) →
      Keeps ends (.send m next) (.send m next')

namespace Dialogue
variable {α β γ δ : Type} {ends : α → β → Prop} {d : Dialogue α} {d' : Dialogue β}

/-- Dialogues that keep up with each other go on to keep up, whatever their results have in common. -/
theorem Keeps.bind (keeps : d.Keeps ends d') {wanted : γ → δ → Prop} {f : α → Dialogue γ} {f' : β → Dialogue δ}
    (rest : ∀ a b, ends a b → (f a).Keeps wanted (f' b)) : (d >>= f).Keeps wanted (d' >>= f') := by
  induction keeps with
  | done related => exact rest _ _ related
  | send _ ih => exact .send ih

theorem Keeps.mono (keeps : d.Keeps ends d') {wider : α → β → Prop} (weaken : ∀ a b, ends a b → wider a b) :
    d.Keeps wider d' := by
  induction keeps with
  | done related => exact .done (weaken _ _ related)
  | send _ ih => exact .send ih

/-- In runs against replies that are alike, the same is sent. -/
theorem Keeps.against (keeps : d.Keeps ends d') {replies replies' : Nat → Reply}
    (alike : ∀ i, (replies i).Alike (replies' i)) :
    (d.against replies).1.map (·.1) = (d'.against replies').1.map (·.1) ∧
      ends (d.against replies).2 (d'.against replies').2 := by
  induction keeps generalizing replies replies' with
  | done related => exact ⟨rfl, related⟩
  | send _ ih =>
    obtain ⟨sent, related⟩ := ih _ _ (alike 0) fun i => alike (i + 1)
    exact ⟨congrArg (_ :: ·) sent, related⟩

end Dialogue

/-- Results that are the same, or errors that blame faults which are alike. -/
inductive Blamed {ε α : Type} (blame : Fault → ε) : Except ε α → Except ε α → Prop
  | same (result : Except ε α) : Blamed blame result result
  | fault {f g : Fault} : f.Alike g → Blamed blame (.error (blame f)) (.error (blame g))

/-- What is sent does not depend on the texts of faults, and the result does so only as far as a fault is blamed. -/
def Exchange.Shields {ε α : Type} (blame : Fault → ε) (x : Exchange ε α) : Prop := x.run.Keeps (Blamed blame) x.run

namespace Exchange
variable {ε ε' α β : Type} {blame : Fault → ε}

theorem shields_ofExcept (x : Except ε α) : (ofExcept x).Shields blame := .done (.same x)

theorem shields_pure (a : α) : (pure a : Exchange ε α).Shields blame := shields_ofExcept (.ok a)

theorem shields_throw (e : ε) : (throw e : Exchange ε α).Shields blame := shields_ofExcept (.error e)

theorem Shields.bind {x : Exchange ε α} {f : α → Exchange ε β} (first : x.Shields blame)
    (rest : ∀ a, (f a).Shields blame) : (x >>= f).Shields blame := by
  refine Dialogue.Keeps.bind first fun result result' related => ?_
  cases related with
  | fault alike => exact .done (.fault alike)
  | same =>
    cases result with
    | ok a => exact rest a
    | error e => exact .done (.same _)

theorem Shields.mapError {x : Exchange ε α} (shields : x.Shields blame) (f : ε → ε') :
    (x.mapError f).Shields fun fault => f (blame fault) := by
  refine Dialogue.Keeps.bind shields fun result result' related => ?_
  cases related with
  | fault alike => exact .done (.fault alike)
  | same => exact .done (.same _)

theorem shields_ite {c : Prop} [Decidable c] {x y : Exchange ε α} (yes : x.Shields blame) (no : y.Shields blame) :
    (if c then x else y).Shields blame := by
  split
  · exact yes
  · exact no

theorem Halts.next {m : Message} {next : Reply → Dialogue (Except ε α)}
    (halts : Halts blame (ExceptT.mk (.send m next))) (reply : Reply) : Halts blame (ExceptT.mk (next reply)) := by
  intro replies before sent fault after occurs
  refine halts (fun | 0 => reply | i + 1 => replies i) ((m, reply) :: before) sent fault after ?_
  exact congrArg ((m, reply) :: ·) occurs

theorem Halts.next_failed {m : Message} {next : Reply → Dialogue (Except ε α)}
    (halts : Halts blame (ExceptT.mk (.send m next))) (fault : Fault) :
    next (.failed fault) = .done (.error (blame fault)) := by
  obtain ⟨silent, blamed⟩ := halts (fun _ => .failed fault) [] m fault _ rfl
  cases ending : next (.failed fault) with
  | send sent later =>
    rw [ending] at silent
    cases silent
  | done result =>
    have ended : (ExceptT.mk (.send m next) : Exchange ε α).run.against (fun _ => .failed fault) =
        ([(m, .failed fault)], result) := by
      show ((m, Reply.failed fault) :: ((next (.failed fault)).against _).1, ((next (.failed fault)).against _).2) = _
      rw [ending]
      rfl
    rw [ended] at blamed
    exact congrArg Dialogue.done blamed

/-- An exchange that ends with the first fault has nothing but the fault's blame to tell. -/
theorem Halts.shields {x : Exchange ε α} (halts : x.Halts blame) : x.Shields blame := by
  have shielded (d : Dialogue (Except ε α)) (halts : Halts blame (ExceptT.mk d)) : d.Keeps (Blamed blame) d := by
    induction d with
    | done result => exact .done (.same result)
    | send m next ih =>
      refine .send fun reply reply' alike => ?_
      cases alike with
      | failed alike =>
        rw [halts.next_failed, halts.next_failed]
        exact .done (.fault alike)
      | same => exact ih reply (halts.next reply)
  exact shielded x.run halts

end Exchange

/-- The same end of a transaction, or two that blame faults which are alike. -/
inductive Settled.Blamed {ε α : Type} (blame : Fault → ε) : Settled ε α → Settled ε α → Prop
  | same (ended : Settled ε α) : Blamed blame ended ended
  | withdrawn {f g : Fault} : f.Alike g → Blamed blame (.withdrawn (blame f)) (.withdrawn (blame g))
  | refused {f g : Fault} : f.Alike g → Blamed blame (.refused (.ofFault f)) (.refused (.ofFault g))

theorem Dialogue.keeps_ask {α : Type} {ends : α → α → Prop} {m : Message} {f : Reply → Dialogue α}
    (rest : ∀ reply reply', reply.Alike reply' → (f reply).Keeps ends (f reply')) :
    (ask m >>= f).Keeps ends (ask m >>= f) := .send rest

theorem Dialogue.keeps_undo {α : Type} {ends : α → α → Prop} {a b : α} (related : ends a b) :
    (do let _ ← ask .rollback; pure a : Dialogue α).Keeps ends (do let _ ← ask .rollback; pure b) :=
  .send fun _ _ _ => .done related

/-- What a transaction does when its work has come to a result. -/
def conclude {ε α : Type} : Except ε α → Dialogue (Settled ε α)
  | .error e => do
    let _ ← Dialogue.ask .rollback
    pure (.withdrawn e)
  | .ok a => do
    match ← Dialogue.ask .commit with
    | .failed fault =>
      let _ ← Dialogue.ask .rollback
      pure (.refused (.ofFault fault))
    | _ => pure (.committed a)

theorem settle_eq {ε α : Type} (work : Exchange ε α) :
    settle work = (do
      match ← Dialogue.ask .begin with
      | .failed fault =>
        let _ ← Dialogue.ask .rollback
        pure (.refused (.ofFault fault))
      | _ => work.run >>= conclude) := rfl

/-- Two results that differ at most in what they blame are concluded alike. -/
theorem Blamed.conclude {ε α : Type} {blame : Fault → ε} {result result' : Except ε α}
    (related : Blamed blame result result') : (conclude result).Keeps (Settled.Blamed blame) (conclude result') := by
  cases related with
  | fault alike => exact Dialogue.keeps_undo (.withdrawn alike)
  | same =>
    cases result with
    | error e => exact Dialogue.keeps_undo (.same _)
    | ok a =>
      refine Dialogue.keeps_ask fun closed closed' alike => ?_
      cases alike with
      | failed alike => exact Dialogue.keeps_undo (.refused alike)
      | same =>
        cases closed with
        | failed fault => exact Dialogue.keeps_undo (.same _)
        | rows found => exact .done (.same _)
        | affected count => exact .done (.same _)

/-- A transaction shields as its work does. -/
theorem Exchange.Shields.settle {ε α : Type} {blame : Fault → ε} {work : Exchange ε α} (shields : work.Shields blame) :
    (settle work).Keeps (Settled.Blamed blame) (settle work) := by
  rw [settle_eq]
  refine Dialogue.keeps_ask fun opened opened' alike => ?_
  cases alike with
  | failed alike => exact Dialogue.keeps_undo (.refused alike)
  | same =>
    cases opened with
    | failed fault => exact Dialogue.keeps_undo (.same _)
    | rows found => exact Dialogue.Keeps.bind shields fun _ _ related => related.conclude
    | affected count => exact Dialogue.Keeps.bind shields fun _ _ related => related.conclude

end AssetRegistry.Store

namespace AssetRegistry.Service
open Store Exchange

theorem shields_transaction {α : Type} {work : Operation α} (shields : work.Shields ServiceError.ofFault) :
    (transaction .ofStore work).Shields ServiceError.ofFault := by
  refine Dialogue.Keeps.bind shields.settle fun ended ended' related => ?_
  cases related with
  | withdrawn alike => exact .done (.fault alike)
  | refused alike => exact .done (.fault alike)
  | same => cases ended <;> exact .done (.same _)

/-- No change lets the text of a fault decide what is sent next. -/
theorem shields_mutation (m : Mutation) : m.operation.Shields ServiceError.ofFault := by
  cases m with
  | createAsset actor req =>
    exact (shields_ofExcept _).bind fun r => shields_transaction (Assets.halts_register actor req r).shields
  | updateAsset actor id req =>
    refine (Assets.halts_find id).shields.bind fun existing => (shields_ofExcept _).bind fun fields => ?_
    exact shields_transaction (Assets.halts_writeUpdate actor id existing fields req.payload?).shields
  | assignAsset req => exact shields_transaction (Assets.halts_handOut req).shields
  | retrieveAsset id => exact shields_transaction (Assets.halts_takeBack id).shields
  | archiveAsset actor id => exact shields_transaction (Assets.halts_withdraw actor id).shields
  | createUser desk actor req =>
    exact (shields_ofExcept _).bind fun user => shields_transaction (Users.halts_enrol user).shields
  | updateUser desk actor id patch =>
    exact (shields_ofExcept _).bind fun patch => shields_transaction (Users.halts_change actor id patch).shields
  | deleteUser actor id =>
    exact (shields_ofExcept _).bind fun _ => shields_transaction (Users.halts_dismiss actor id).shields

/-- Of two faults that are alike, a first log-in takes both for the address just taken, or neither. -/
theorem keeps_resume (email : String) {ended ended' : Settled StoreError User}
    (related : Settled.Blamed StoreError.ofFault ended ended') :
    (Users.resume email ended).run.Keeps (Blamed ServiceError.ofFault) (Users.resume email ended').run := by
  cases related with
  | same => exact (Users.halts_resume email ended).shields
  | refused alike => exact .done (.fault alike)
  | @withdrawn f g alike =>
    by_cases unique : f.code = uniqueViolation
    · have conflicts {h : Fault} (unique : h.code = uniqueViolation) : StoreError.ofFault h = .conflict h.constraint :=
        if_pos unique
      rw [conflicts unique, conflicts (alike.code ▸ unique)]
      exact (Users.halts_lookAgain email).shields
    · have throws {h : Fault} (other : h.code ≠ uniqueViolation) :
          Users.resume email (.withdrawn (.ofFault h)) = throw (.ofFault h) := by
        unfold ServiceError.ofFault StoreError.ofFault
        rw [if_neg other]
        split <;> rfl
      rw [throws unique, throws (alike.code ▸ unique)]
      exact .done (.fault alike)

theorem shields_provision (email : String) : (Users.provision email).Shields ServiceError.ofFault := by
  rw [Users.provision_eq]
  exact Dialogue.Keeps.bind (Users.halts_insert _).shields.settle fun _ _ related => keeps_resume email related

/-- Nor does the log-in, though it looks at the fault of its insertion. -/
theorem shields_login (desk : Users.Desk) (req : Login) : (Users.login desk req).Shields ServiceError.ofFault := by
  cases validated : desk.policy.validate req.email with
  | error e =>
    rw [Users.login_of_invalid validated]
    exact shields_throw _
  | ok email =>
    rw [Users.login_of_valid validated]
    refine Shields.bind (Shields.bind (halts_stored (halts_fetchOptional _ _)).shields fun found => ?_) fun user =>
      (Users.halts_signIn desk req user).shields
    cases found with
    | some user => exact shields_pure user
    | none => exact shields_provision email

/-- No operation tells more of a fault than its kind. -/
theorem shields_call (call : Call) : call.operation.Shields ServiceError.ofFault := by
  cases call with
  | mutation m => exact shields_mutation m
  | findAsset id => exact (Assets.halts_find id).shields
  | assetDetail id => exact (halts_detail id).shields
  | isAvailable id => exact (Assets.halts_isAvailable id).shields
  | listAssets filter page => exact (halts_fetchChecked _ _ _ (halts_ofExcept _)).shields
  | assetTimeline id => exact (halts_timeline id).shields
  | assetsOfUser id => exact (halts_stored (halts_fetchAll _ _)).shields
  | login desk req => exact shields_login desk req
  | refresh desk req => exact (halts_refresh desk req).shields
  | listUsers filter page => exact (halts_fetchChecked _ _ _ (halts_ofExcept _)).shields
  | userDetails id => exact (Users.halts_details id).shields
  | userTimeline id => exact (halts_stored (halts_fetchAll _ _)).shields
  | activeAssignments id => exact (halts_stored (halts_fetchOne _ _)).shields

end AssetRegistry.Service

namespace AssetRegistry.Web
open Store Exchange

/-- How a request fails whose operation meets a fault. -/
def Failure.ofFault (fault : Fault) : Failure := .ofService (.ofFault fault)

/-- A failure tells nothing of a fault but its kind. -/
theorem Failure.ofFault_alike {f g : Fault} (alike : f.Alike g) : ofFault f = ofFault g := by
  unfold ofFault ServiceError.ofFault StoreError.ofFault
  rw [alike.code, alike.constraint]
  split
  · rfl
  · split <;> rfl

theorem ApiError.ofFault_alike {f g : Fault} (alike : f.Alike g) : ofStore (.ofFault f) = ofStore (.ofFault g) := by
  unfold StoreError.ofFault
  rw [alike.code, alike.constraint]
  split
  · rfl
  · split <;> rfl

variable {α β : Type} {blame : Fault → Failure}

theorem shields_perform {x : Service.Operation α} (shields : x.Shields ServiceError.ofFault) :
    (perform x).Shields Failure.ofFault := shields.mapError _

theorem shields_allow (x : Except ApiError α) : (allow x).Shields blame := shields_ofExcept _

theorem shields_pieceText (piece : List Char) : (pieceText piece).Shields blame := by
  unfold pieceText
  split
  · exact shields_pure _
  · exact shields_throw _

theorem shields_pathId (piece : List Char) (what : String) : (pathId piece what).Shields blame :=
  (shields_pieceText piece).bind fun _ => shields_allow _

/-- An operation on what a path names. -/
theorem shields_named {piece : List Char} {what : String} {work : Uuid → Service.Operation α}
    (shields : ∀ id, (work id).Shields ServiceError.ofFault) (respond : α → Response) :
    (do return respond (← perform (work (← pathId piece what))) : Handling Response).Shields Failure.ofFault :=
  (shields_pathId piece what).bind fun id => (shields_perform (shields id)).bind fun _ => shields_pure _

/-- An operation on what a request says. -/
theorem shields_read {x : Except ApiError α} {work : α → Service.Operation β}
    (shields : ∀ req, (work req).Shields ServiceError.ofFault) (respond : β → Response) :
    (do return respond (← perform (work (← allow x))) : Handling Response).Shields Failure.ofFault :=
  (shields_allow x).bind fun req => (shields_perform (shields req)).bind fun _ => shields_pure _

open Service in
/-- No work of a guarded route lets the text of a fault decide. -/
theorem shields_serveGuarded (app : App) (actor : Actor) (r : Request) (route : GuardedRoute) :
    (serveGuarded app actor r route).Shields Failure.ofFault := by
  unfold serveGuarded
  cases route with
  | users =>
    refine shields_ite (shields_read (fun filter => shields_call (.listUsers filter _)) _) ?_
    exact shields_read (fun req => shields_mutation (.createUser app.desk actor req)) _
  | user id =>
    refine shields_ite (shields_named (fun id => shields_call (.userDetails id)) _) (shields_ite ?_ ?_)
    · refine (shields_pieceText id).bind fun text => (shields_allow _).bind fun patch => ?_
      refine (shields_allow _).bind fun id => ?_
      exact (shields_perform (shields_mutation (.updateUser app.desk actor id patch))).bind fun _ => shields_pure _
    · exact shields_named (fun id => shields_mutation (.deleteUser actor id)) fun _ => .noContent
  | userTimeline id => exact shields_named (fun id => shields_call (.userTimeline id)) _
  | assets =>
    refine shields_ite (shields_read (fun filter => shields_call (.listAssets filter _)) _) ?_
    exact shields_read (fun req => shields_mutation (.createAsset actor req)) _
  | assign => exact shields_read (fun req => shields_mutation (.assignAsset req)) _
  | asset id =>
    refine shields_ite (shields_named (fun id => shields_call (.assetDetail id)) _) (shields_ite ?_ ?_)
    · refine (shields_pieceText id).bind fun text => (shields_allow _).bind fun req => ?_
      refine (shields_allow _).bind fun id => ?_
      exact (shields_perform (shields_mutation (.updateAsset actor id req))).bind fun _ => shields_pure _
    · exact shields_named (fun id => shields_mutation (.archiveAsset actor id)) fun _ => .noContent
  | retrieve id =>
    refine (shields_pathId id "asset").bind fun id => ?_
    exact (shields_perform (shields_mutation (.retrieveAsset id))).bind fun _ => shields_pure _
  | assetTimeline id => exact shields_named (fun id => shields_call (.assetTimeline id)) _

/-- What is sent and how it ends does not depend on the texts of faults at all. -/
def Discreet (x : Handling α) : Prop := x.run.Keeps Eq x.run

/-- What shields and hides is discreet. -/
theorem discreet_of_shields {x : Handling α} (shields : x.Shields blame)
    (hides : ∀ {f g : Fault}, f.Alike g → blame f = blame g) : Discreet x := by
  refine shields.mono fun result result' related => ?_
  cases related with
  | same => rfl
  | fault alike => rw [hides alike]

theorem discreet_health : Discreet health := by
  have pings : health.Shields fun fault => .refused (.ofStore (.ofFault fault)) :=
    ((halts_execute .ping).shields.mapError fun e => Failure.refused (.ofStore e)).bind fun _ => shields_pure _
  exact discreet_of_shields pings fun alike => by rw [ApiError.ofFault_alike alike]

/-- All routes are discreet. -/
theorem discreet_handle (app : App) (r : Request) (route : Route) : Discreet (handle app r route) := by
  have quiet {x : Handling Response} (shields : x.Shields Failure.ofFault) : Discreet x :=
    discreet_of_shields shields Failure.ofFault_alike
  unfold handle
  cases route with
  | unguarded inner =>
    dsimp only
    split
    · cases inner with
      | health => exact discreet_health
      | login => exact quiet (shields_read (fun req => Service.shields_call (.login app.desk req)) _)
      | refresh => exact quiet (shields_read (fun req => Service.shields_call (.refresh app.desk req)) _)
    · exact quiet (shields_pure _)
  | guarded inner =>
    refine quiet ((shields_allow _).bind fun actor => ?_)
    exact shields_ite (shields_serveGuarded app actor r inner) (shields_pure _)

/-- Two stores that differ in the texts of faults are sent the same and lead to the same response. -/
theorem App.respond_keeps (app : App) (r : Request) : (app.respond r).Keeps Eq (app.respond r) := by
  unfold respond
  cases Route.ofPath? r.path with
  | none => exact .done rfl
  | some route =>
    dsimp only
    split
    · exact .done rfl
    · refine Dialogue.Keeps.bind (discreet_handle app r route) fun result result' same => ?_
      subst same
      cases result <;> exact .done rfl

/-- Whatever is asked, stores that tell the same but for the texts of their faults have the same part in it: they are
sent the same, and what is answered is the same. -/
theorem App.answers_discreetly (app : App) (r : Request) (replies replies' : Nat → Reply)
    (alike : ∀ i, (replies i).Alike (replies' i)) :
    ((app.answer r).against replies).2 = ((app.answer r).against replies').2 ∧
      ((app.answer r).against replies).1.map (·.1) = ((app.answer r).against replies').1.map (·.1) := by
  have keeps : (app.answer r).Keeps Eq (app.answer r) :=
    (app.respond_keeps r).bind fun response response' same => .done (by rw [same])
  obtain ⟨sent, answered⟩ := keeps.against alike
  exact ⟨answered, sent⟩

/-- A log-in that meets the race for its address. -/
def raceRequest : Request where
  method := "POST"
  target := "/api/auth/login"
  headers := [("content-type", Text.utf8 "application/json")]
  body := "\x7b\"email\":\"ann@acme.com\"\x7d"

/-- The replies of the race, with another text of its fault. -/
def rewordedReplies (i : Nat) : Reply :=
  if i = 2 then .failed { Service.addressTaken with message := "row 00000000-0000-0000-0000-000000000004 is in the way" }
  else Service.raceReplies i

/-- The fault of the race may be worded in any way. -/
theorem rewording_unnoticed : (∀ i, (Service.raceReplies i).Alike (rewordedReplies i)) ∧
    ((closedApp.answer raceRequest).against Service.raceReplies).2 =
      ((closedApp.answer raceRequest).against rewordedReplies).2 ∧
    ((closedApp.answer raceRequest).against rewordedReplies).1.length = 6 ∧
    ((closedApp.answer raceRequest).against rewordedReplies).2.map (·.status) = some 200 := by
  have alike (i : Nat) : (Service.raceReplies i).Alike (rewordedReplies i) := by
    unfold rewordedReplies
    split
    next second => exact second ▸ .failed ⟨rfl, rfl⟩
    · exact .same _
  exact ⟨alike, (closedApp.answers_discreetly raceRequest _ _ alike).1, by decide +kernel, by decide +kernel⟩

end AssetRegistry.Web
