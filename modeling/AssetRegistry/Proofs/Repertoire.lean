import AssetRegistry.Proofs.Privilege

namespace AssetRegistry.Store

/-- The store has told that the asset looks so. -/
def Tells (id : Uuid) (existing : Asset) (past : List Event) : Prop :=
  ∃ row more, (.statement (.findAsset id), .rows (row :: more)) ∈ past ∧ Asset.ofRow row = .ok existing

namespace Exchange
variable {ε α : Type} {rule : List Event → Message → Prop}

theorem obeys_single {q : Statement} (allowed : ∀ past, rule past (.statement q)) (read : Reply → Except ε α) :
    (single q read).Obeys rule :=
  fun past => ensures_single.2 ⟨allowed past, fun _ _ _ => ⟨fun _ _ => trivial, fun _ _ => trivial⟩⟩

theorem obeys_execute {q : Statement} (allowed : ∀ past, rule past (.statement q)) : (execute q).Obeys rule := by
  rw [execute_eq_single]
  exact obeys_single allowed _

theorem obeys_fetchOne {q : Statement} (allowed : ∀ past, rule past (.statement q)) (read : RowReader α) :
    (fetchOne q read).Obeys rule := by
  rw [fetchOne_eq_single]
  exact obeys_single allowed _

theorem obeys_ofExcept (x : Except ε α) : (ofExcept x).Obeys rule := by
  cases x with
  | ok a => exact obeys_pure a
  | error e => exact obeys_throw e

theorem obeys_fetchAll {q : Statement} (allowed : ∀ past, rule past (.statement q)) (read : RowReader α) :
    (fetchAll q read).Obeys rule := by
  unfold fetchAll
  rw [rowsOf_eq_single]
  exact (obeys_single allowed _).bind fun _ => obeys_ofExcept _

theorem obeys_findOrInsert {find insert : Statement} (finds : ∀ past, rule past (.statement find))
    (inserts : ∀ past, rule past (.statement insert)) (read : RowReader α) (missing : StoreError) :
    (findOrInsert find insert read missing).Obeys rule := by
  refine (obeys_fetchOptional finds read).bind fun found => ?_
  cases found with
  | some a => exact obeys_pure a
  | none =>
    refine (obeys_fetchOptional inserts read).bind fun inserted => ?_
    cases inserted with
    | some a => exact obeys_pure a
    | none =>
      refine (obeys_fetchOptional finds read).bind fun again => ?_
      cases again with
      | some a => exact obeys_pure a
      | none => exact obeys_throw missing

end Exchange

/-- What holds of the past still holds when more has been sent. -/
def Lasting (known : List Event → Prop) : Prop := ∀ past e, known past → known (past ++ [e])

/-- A rule that may use what is known from the start. -/
theorem Dialogue.Ensures.informed {α : Type} {rule : List Event → Message → Prop} {known : List Event → Prop}
    {d : Dialogue α} {past : List Event} {post : α → List Event → Prop}
    (ensured : d.Ensures (.ruled fun past m => known past → rule past m) past post) (lasting : Lasting known)
    (knows : known past) : d.Ensures (.ruled rule) past post := by
  induction d generalizing past with
  | done a => exact ensured
  | send m next ih =>
    refine ⟨ensured.1 knows, ?_⟩
    rintro reply _ rfl
    exact ih reply (ensured.2 reply _ rfl) (lasting past _ knows)

/-- What was told of an asset stays told. -/
theorem lasting_tells (id : Uuid) (existing : Asset) : Lasting (Tells id existing) := by
  rintro past e ⟨row, more, told, reads⟩
  exact ⟨row, more, List.mem_append_left _ told, reads⟩

end AssetRegistry.Store

namespace AssetRegistry.Service
open Store Exchange

/-- The statements that a call may send after what has been sent. -/
inductive Call.MaySend (past : List Event) : Call → Statement → Prop
  | findBrand {actor : Actor} {req : CreateAsset} {r : Assets.Registration} : Assets.checkCreate req = .ok r →
      MaySend past (.mutation (.createAsset actor req)) (.findBrand r.brandName)
  | insertBrand {actor : Actor} {req : CreateAsset} {r : Assets.Registration} : Assets.checkCreate req = .ok r →
      MaySend past (.mutation (.createAsset actor req)) (.insertBrand r.brandName)
  | findModel {actor : Actor} {req : CreateAsset} {r : Assets.Registration} (brandId : Uuid) :
      Assets.checkCreate req = .ok r →
      MaySend past (.mutation (.createAsset actor req)) (.findModel r.modelName brandId r.assetType)
  | insertModel {actor : Actor} {req : CreateAsset} {r : Assets.Registration} (brandId : Uuid) :
      Assets.checkCreate req = .ok r →
      MaySend past (.mutation (.createAsset actor req)) (.insertModel r.modelName brandId r.assetType)
  | insertAttributes {actor : Actor} {req : CreateAsset} {r : Assets.Registration} {attributes : Attributes} :
      Assets.checkCreate req = .ok r → Attributes.check r.assetType req.specs = .ok attributes →
      MaySend past (.mutation (.createAsset actor req)) (.insertAttributes attributes)
  | insertAsset {actor : Actor} {req : CreateAsset} {r : Assets.Registration} (modelId specsId : Uuid) :
      Assets.checkCreate req = .ok r →
      MaySend past (.mutation (.createAsset actor req)) (.insertAsset
        { modelId, specsId, serialNo := r.serialNo, ownedBy := req.ownedBy, purchasedDate := r.purchasedDate,
          warrantyStart := req.warrantyStart, warrantyEnd := req.warrantyEnd, createdBy := actor.userId })
  | recordStatus {actor : Actor} {req : CreateAsset} {r : Assets.Registration} (assetId : Uuid) :
      Assets.checkCreate req = .ok r →
      MaySend past (.mutation (.createAsset actor req)) (.recordStatus assetId r.status)
  | findBeforeUpdate {actor : Actor} {id : Uuid} {req : UpdateAsset} :
      MaySend past (.mutation (.updateAsset actor id req)) (.findAsset id)
  | updateAsset {actor : Actor} {id : Uuid} {req : UpdateAsset} {existing : Asset} {fields : AssetPatch} :
      Tells id existing past → Assets.checkUpdate existing req.fields = .ok fields →
      MaySend past (.mutation (.updateAsset actor id req)) (.updateAsset id fields actor.userId)
  | updateAttributes {actor : Actor} {id : Uuid} {req : UpdateAsset} {existing : Asset} {payload : Json}
      {patch : AttributesPatch} : Tells id existing past → req.specs = some payload →
      AttributesPatch.check existing.assetType payload = .ok patch →
      MaySend past (.mutation (.updateAsset actor id req)) (.updateAttributes patch existing.specsId)
  | lockAssigned {req : AssignAsset} : MaySend past (.mutation (.assignAsset req)) (.lockAsset req.assetId)
  | lockAssignee {req : AssignAsset} : MaySend past (.mutation (.assignAsset req)) (.lockUser req.userId false)
  | isAssignedYet {req : AssignAsset} : MaySend past (.mutation (.assignAsset req)) (.isAssigned req.assetId)
  | insertAssignment {req : AssignAsset} :
      MaySend past (.mutation (.assignAsset req)) (.insertAssignment req.assetId req.userId)
  | lockRetrieved {id : Uuid} : MaySend past (.mutation (.retrieveAsset id)) (.lockAsset id)
  | findAssignment {id : Uuid} : MaySend past (.mutation (.retrieveAsset id)) (.findAssignment id)
  | archiveEntry {id : Uuid} (entry : Uuid) : MaySend past (.mutation (.retrieveAsset id)) (.archiveEntry entry)
  | lockArchived {actor : Actor} {id : Uuid} : MaySend past (.mutation (.archiveAsset actor id)) (.lockAsset id)
  | isAssignedStill {actor : Actor} {id : Uuid} : MaySend past (.mutation (.archiveAsset actor id)) (.isAssigned id)
  | archiveAsset {actor : Actor} {id : Uuid} :
      MaySend past (.mutation (.archiveAsset actor id)) (.archiveAsset id actor.userId)
  | findTaken {desk : Users.Desk} {actor : Actor} {req : CreateUser} {user : NewUser} :
      Users.checkCreate desk actor req = .ok user →
      MaySend past (.mutation (.createUser desk actor req)) (.findUserByEmail user.email)
  | insertUser {desk : Users.Desk} {actor : Actor} {req : CreateUser} {user : NewUser} :
      Users.checkCreate desk actor req = .ok user →
      MaySend past (.mutation (.createUser desk actor req)) (.insertUser user)
  | addRole {desk : Users.Desk} {actor : Actor} {req : CreateUser} {user : NewUser} {userId : Uuid} :
      Users.checkCreate desk actor req = .ok user → JustInserted userId past →
      MaySend past (.mutation (.createUser desk actor req)) (.addRole userId user.role)
  | updateUser {desk : Users.Desk} {actor : Actor} {id : Uuid} {patch checked : UserPatch} :
      Users.checkUpdate desk patch = .ok checked →
      MaySend past (.mutation (.updateUser desk actor id patch)) (.updateUser id checked actor.userId)
  | lockDeleted {actor : Actor} {id : Uuid} : MaySend past (.mutation (.deleteUser actor id)) (.lockUser id true)
  | countHeld {actor : Actor} {id : Uuid} : MaySend past (.mutation (.deleteUser actor id)) (.countAssignments id)
  | archiveUser {actor : Actor} {id : Uuid} :
      MaySend past (.mutation (.deleteUser actor id)) (.archiveUser id actor.userId)
  | findAsset {id : Uuid} : MaySend past (.findAsset id) (.findAsset id)
  | findDetailed {id : Uuid} : MaySend past (.assetDetail id) (.findAsset id)
  | findAttributes {id : Uuid} {existing : Asset} : Tells id existing past →
      MaySend past (.assetDetail id) (.findAttributes existing.assetType existing.specsId)
  | isAssigned {id : Uuid} : MaySend past (.isAvailable id) (.isAssigned id)
  | listAssets {filter : AssetFilter} {page : Query.Page} {rendered : Query.Rendered} :
      (Assets.listQuery filter page).render = .ok rendered →
      MaySend past (.listAssets filter page) (.listAssets rendered)
  | assetExists {id : Uuid} : MaySend past (.assetTimeline id) (.assetExists id)
  | assetTimeline {id : Uuid} : MaySend past (.assetTimeline id) (.assetTimeline id)
  | assetsOfUser {id : Uuid} : MaySend past (.assetsOfUser id) (.userTimeline id)
  | findByEmail {desk : Users.Desk} {req : Login} {email : String} : desk.policy.validate req.email = .ok email →
      MaySend past (.login desk req) (.findUserByEmail email)
  | insertNewcomer {desk : Users.Desk} {req : Login} {email : String} : desk.policy.validate req.email = .ok email →
      MaySend past (.login desk req) (.insertUser (Users.newcomer email))
  | addFirstRole {desk : Users.Desk} {req : Login} {userId : Uuid} : JustInserted userId past →
      MaySend past (.login desk req) (.addRole userId .employee)
  | rolesAtLogin {desk : Users.Desk} {req : Login} (userId : Uuid) : MaySend past (.login desk req) (.rolesOf userId)
  | findRenewing {desk : Users.Desk} {req : Refresh} (userId : Uuid) : MaySend past (.refresh desk req) (.findUser userId)
  | rolesAtRenewal {desk : Users.Desk} {req : Refresh} (userId : Uuid) :
      MaySend past (.refresh desk req) (.rolesOf userId)
  | listUsers {filter : UserFilter} {page : Query.Page} {rendered : Query.Rendered} :
      (Users.listQuery filter page).render = .ok rendered → MaySend past (.listUsers filter page) (.listUsers rendered)
  | findSummary {id : Uuid} {rendered : Query.Rendered} : (Users.summaryQuery id).render = .ok rendered →
      MaySend past (.userDetails id) (.listUsers rendered)
  | heldAssets {id : Uuid} : MaySend past (.userDetails id) (.heldAssets id)
  | userTimeline {id : Uuid} : MaySend past (.userTimeline id) (.userTimeline id)
  | countAssignments {id : Uuid} : MaySend past (.activeAssignments id) (.countAssignments id)

/-- The messages that a call may send after what has been sent. -/
def Call.Allows (call : Call) (past : List Event) : Message → Prop
  | .statement q => call.MaySend past q
  | .begin | .commit | .rollback => True

variable {α β : Type} {rule : List Event → Message → Prop}

theorem obeys_stored {x : Exchange StoreError α} (obeys : x.Obeys rule) : (stored x).Obeys rule := obeys.mapError _

/-- What comes after an asset has been found may use what the store has told of it. -/
theorem obeys_found {id : Uuid} {next : Asset → Operation α} (finds : ∀ past, rule past (.statement (.findAsset id)))
    (goesOn : ∀ existing, (next existing).Obeys fun past m => Tells id existing past → rule past m) :
    (Assets.find id >>= next).Obeys rule := by
  intro past
  unfold Assets.find Assets.lookUp
  rw [ensures_bind, ensures_bind, ensures_stored, fetchOptional_eq_single, ensures_single]
  refine ⟨finds past, fun reply now answered => ⟨fun found first => ?_, fun _ _ => trivial⟩⟩
  cases found with
  | none => trivial
  | some existing =>
    obtain ⟨row, more, rfl, reads⟩ := rows_of_first? first
    have told : (.statement (.findAsset id), .rows (row :: more)) ∈ now := by
      rw [answered]
      exact List.mem_append_right _ List.mem_cons_self
    show (next existing).Ensures (.ruled rule) now (fun _ _ => True) fun _ _ => True
    exact Dialogue.Ensures.informed (goesOn existing now) (lasting_tells id existing) ⟨row, more, told, reads⟩

-- Otherwise an operation is carried out wherever a goal is compared with what it obeys.
attribute [local irreducible] Exchange.Obeys

/-- A registration sends the statements that it may, in the forms that the check has made. -/
theorem Assets.obeys_register {actor : Actor} {req : CreateAsset} {r : Assets.Registration}
    (checked : Assets.checkCreate req = .ok r) :
    (Assets.register actor req r).Obeys (Call.mutation (.createAsset actor req)).Allows := by
  refine (obeys_stored (obeys_findOrInsert (fun _ => .findBrand checked) (fun _ => .insertBrand checked) _ _)).bind
    fun brand => ?_
  refine (obeys_stored (obeys_findOrInsert (fun _ => .findModel brand.id checked) (fun _ => .insertModel brand.id checked)
    _ _)).bind fun model => ?_
  refine ((obeys_checked fun attributes found => ?_).mapError _).bind fun specsId => ?_
  · exact (obeys_fetchOne (fun _ => .insertAttributes checked found) _).mapError _
  refine (obeys_stored (obeys_fetchOne (fun _ => .insertAsset model.id specsId checked) _)).bind fun assetId => ?_
  exact (obeys_stored (obeys_fetchOne (fun _ => .recordStatus assetId checked) _)).bind fun _ => obeys_pure assetId

/-- An update writes what it was checked for, once the asset has been told. -/
theorem Assets.obeys_writeUpdate {actor : Actor} {id : Uuid} {req : UpdateAsset} {existing : Asset} {fields : AssetPatch}
    (checked : Assets.checkUpdate existing req.fields = .ok fields) :
    (Assets.writeUpdate actor id existing fields req.payload?).Obeys fun past m => Tells id existing past →
      (Call.mutation (.updateAsset actor id req)).Allows past m := by
  refine (obeys_stored ((obeys_execute fun _ tells => .updateAsset tells checked).bind fun _ => obeys_pure _)).bind
    fun written => obeys_ite (obeys_throw _) ?_
  cases gives : req.payload? with
  | none => exact obeys_pure ()
  | some payload =>
    obtain ⟨given, -⟩ := UpdateAsset.payload?_eq_some_iff.1 gives
    refine (obeys_checked fun patch found => obeys_ite (obeys_pure ()) ?_).mapError _
    exact ((obeys_execute fun _ tells => .updateAttributes tells given found).mapError _).bind fun count =>
      obeys_ite (obeys_throw _) (obeys_pure ())

/-- A mutation sends what it may, whatever is answered. -/
theorem Mutation.obeys (m : Mutation) : m.operation.Obeys (Call.mutation m).Allows := by
  have within {known : List Event → Prop} {work : Operation m.Result}
      (obeys : work.Obeys fun past sent => known past → (Call.mutation m).Allows past sent) :
      (transaction .ofStore work).Obeys fun past sent => known past → (Call.mutation m).Allows past sent :=
    obeys.transaction (fun _ _ => trivial) (fun _ _ => trivial) fun _ _ => trivial
  have whole {work : Operation m.Result} (obeys : work.Obeys (Call.mutation m).Allows) :
      (transaction .ofStore work).Obeys (Call.mutation m).Allows :=
    obeys.transaction (fun _ => trivial) (fun _ => trivial) fun _ => trivial
  cases m with
  | createAsset actor req => exact obeys_checked fun r checked => whole (Assets.obeys_register checked)
  | updateAsset actor id req =>
    refine obeys_found (fun _ => .findBeforeUpdate) fun existing => ?_
    exact obeys_checked fun fields checked => within (Assets.obeys_writeUpdate checked)
  | assignAsset req =>
    refine whole ?_
    refine (obeys_stored ((obeys_fetchOptional (fun _ => .lockAssigned) _).bind fun _ => obeys_pure _)).bind fun _ => ?_
    refine obeys_ite (obeys_throw _) ((obeys_stored (obeys_fetchOptional (fun _ => .lockAssignee) _)).bind fun _ => ?_)
    refine obeys_ite (obeys_throw _) (Obeys.bind ?_ fun _ => obeys_ite (obeys_throw _) ?_)
    · exact obeys_stored ((obeys_fetchOne (fun _ => .isAssignedYet) _).bind fun _ => obeys_pure _)
    · exact obeys_stored (obeys_fetchOne (fun _ => .insertAssignment) _)
  | retrieveAsset id =>
    refine whole ?_
    refine (obeys_stored ((obeys_fetchOptional (fun _ => .lockRetrieved) _).bind fun _ => obeys_pure _)).bind fun _ => ?_
    refine obeys_ite (obeys_throw _) ((obeys_stored (obeys_fetchOptional (fun _ => .findAssignment) _)).bind fun found => ?_)
    cases found with
    | none => exact obeys_throw _
    | some entry =>
      exact (obeys_stored ((obeys_execute fun _ => .archiveEntry entry).bind fun _ => obeys_pure _)).bind fun _ =>
        obeys_pure ()
  | archiveAsset actor id =>
    refine whole ?_
    refine (obeys_stored ((obeys_fetchOptional (fun _ => .lockArchived) _).bind fun _ => obeys_pure _)).bind fun _ => ?_
    refine obeys_ite (obeys_throw _) (Obeys.bind ?_ fun _ => obeys_ite (obeys_throw _) (Obeys.bind ?_ fun _ => obeys_pure ()))
    · exact obeys_stored ((obeys_fetchOne (fun _ => .isAssignedStill) _).bind fun _ => obeys_pure _)
    · exact obeys_stored ((obeys_execute fun _ => .archiveAsset).bind fun _ => obeys_pure _)
  | createUser desk actor req =>
    refine obeys_checked fun user checked => whole ?_
    refine (obeys_stored (obeys_fetchOptional (fun _ => .findTaken checked) _)).bind fun _ => obeys_ite (obeys_throw _) ?_
    exact obeys_stored (Users.obeys_insert (fun _ => .insertUser checked) fun _ _ inserted => .addRole checked inserted)
  | updateUser desk actor id patch =>
    refine obeys_checked fun fields checked => whole ?_
    refine (obeys_stored (obeys_fetchOptional (fun _ => .updateUser checked) _)).bind fun written => ?_
    cases written with
    | none => exact obeys_throw _
    | some user => exact obeys_pure user
  | deleteUser actor id =>
    refine obeys_checked fun _ _ => whole ?_
    refine (obeys_stored ((obeys_fetchOptional (fun _ => .lockDeleted) _).bind fun _ => obeys_pure _)).bind fun _ => ?_
    refine obeys_ite (obeys_throw _) ((obeys_stored (obeys_fetchOne (fun _ => .countHeld) _)).bind fun held => ?_)
    refine obeys_ite (obeys_throw _) (Obeys.bind ?_ fun _ => obeys_pure ())
    exact obeys_stored ((obeys_execute fun _ => .archiveUser).bind fun _ => obeys_pure _)

theorem obeys_login (desk : Users.Desk) (req : Login) : (Users.login desk req).Obeys (Call.login desk req).Allows := by
  cases validated : desk.policy.validate req.email with
  | error e =>
    rw [Users.login_of_invalid validated]
    exact obeys_throw _
  | ok email =>
    rw [Users.login_of_valid validated]
    have inserts : (Users.insert (Users.newcomer email)).Obeys (Call.login desk req).Allows :=
      Users.obeys_insert (fun _ => .insertNewcomer validated) fun _ _ inserted => .addFirstRole inserted
    refine (Users.obeys_findOrProvision (fun _ => .findByEmail validated) (fun _ => trivial) (fun _ => trivial)
      (fun _ => trivial) inserts).bind fun user => ?_
    exact (obeys_stored (obeys_fetchAll (fun _ => .rolesAtLogin user.id) _)).bind fun _ => obeys_ofExcept _

theorem rendered_of_checked {q : Query.Select} {rendered : Query.Rendered}
    (checks : q.render.mapError (fun e => StoreError.query e.message) = .ok rendered) : q.render = .ok rendered :=
  ok_of_mapError checks

/-- A call sends what it may, whatever is answered. -/
theorem Call.obeys (call : Call) : call.operation.Obeys call.Allows := by
  cases call with
  | mutation m => exact m.obeys
  | findAsset id =>
    refine (obeys_stored (obeys_fetchOptional (fun _ => .findAsset) _)).bind fun found => ?_
    cases found with
    | none => exact obeys_throw _
    | some existing => exact obeys_pure existing
  | assetDetail id =>
    refine obeys_found (fun _ => .findDetailed) fun existing => ?_
    refine Obeys.bind (Obeys.mapError (Obeys.mapError ?_ _) _) fun _ => obeys_pure _
    refine (obeys_fetchOptional (fun _ tells => .findAttributes tells) _).bind fun found => ?_
    cases found with
    | none => exact obeys_throw _
    | some attributes => exact obeys_pure attributes
  | isAvailable id => exact obeys_stored ((obeys_fetchOne (fun _ => .isAssigned) _).bind fun _ => obeys_pure _)
  | listAssets filter page =>
    exact obeys_stored (obeys_checked fun rendered checks =>
      obeys_fetchAll (fun _ => .listAssets (rendered_of_checked checks)) _)
  | assetTimeline id =>
    refine (obeys_stored (obeys_fetchOne (fun _ => .assetExists) _)).bind fun _ => obeys_ite (obeys_throw _) ?_
    exact obeys_stored (obeys_fetchAll (fun _ => .assetTimeline) _)
  | assetsOfUser id => exact obeys_stored (obeys_fetchAll (fun _ => .assetsOfUser) _)
  | login desk req => exact obeys_login desk req
  | refresh desk req =>
    refine obeys_checked fun pair _ => ?_
    refine (obeys_stored (obeys_fetchOptional (fun _ => .findRenewing pair.1) _)).bind fun found => ?_
    refine obeys_ite (obeys_throw _) ((obeys_stored (obeys_fetchAll (fun _ => .rolesAtRenewal pair.1) _)).bind fun _ => ?_)
    exact obeys_ofExcept _
  | listUsers filter page =>
    exact obeys_stored (obeys_checked fun rendered checks =>
      obeys_fetchAll (fun _ => .listUsers (rendered_of_checked checks)) _)
  | userDetails id =>
    have summary : (Users.summary id).Obeys (Call.userDetails id).Allows :=
      obeys_checked fun rendered checks => obeys_fetchOptional (fun _ => .findSummary (rendered_of_checked checks)) _
    refine (obeys_stored summary).bind fun found => ?_
    cases found with
    | none => exact obeys_throw _
    | some user => exact (obeys_stored (obeys_fetchAll (fun _ => .heldAssets) _)).bind fun _ => obeys_pure _
  | userTimeline id => exact obeys_stored (obeys_fetchAll (fun _ => .userTimeline) _)
  | activeAssignments id => exact obeys_stored (obeys_fetchOne (fun _ => .countAssignments) _)

end AssetRegistry.Service
