import AssetRegistry.Proofs.Faults
import AssetRegistry.Proofs.Stamps
import AssetRegistry.Proofs.TokenTimes

namespace AssetRegistry.Store

namespace Statement

theorem given_addRole (userId : Uuid) (role : Role) :
    (addRole userId role).given ["user_id"] = [.uuid userId] ∧
      (addRole userId role).given ["role"] = [.ofLabel role] := by
  simp only [given_of_fills (q := addRole userId role) rfl rfl]
  simp [args]

/-- No other statement than the one for it gives a user a role. -/
theorem grant_of_insert {q : Statement} (listed : q.Listed) (inserts : q.command.InsertsInto "user_roles") :
    ∃ userId role, q = addRole userId role := by
  have writes := write_of_does (w := .insertion .roles) listed inserts
  cases q with
  | addRole userId role => exact ⟨userId, role, rfl⟩
  | _ => cases writes

end Statement

/-- The last answer tells of a user who has been inserted. -/
def JustInserted (userId : Uuid) (past : List Event) : Prop :=
  ∃ earlier user row more created, past = earlier ++ [(.statement (.insertUser user), .rows (row :: more))] ∧
    User.ofRow row = .ok created ∧ created.id = userId

/-- A role is given to the user who has just been inserted, and only one that may be given. -/
def Granting (may : Role → Prop) (past : List Event) (m : Message) : Prop :=
  ∀ q, m = .statement q → q.Listed ∧ ∀ userId role, q.grant? = some (userId, role) → may role ∧ JustInserted userId past

theorem granting_of_authored {userId : Uuid} {may : Role → Prop} {past : List Event} {m : Message}
    (authored : Authored userId m) : Granting may past m := by
  rintro q rfl
  obtain ⟨listed, -, ungranting⟩ := authored q rfl
  exact ⟨listed, fun _ _ grants => by rw [ungranting] at grants; cases grants⟩

theorem rows_of_first {α : Type} {read : RowReader α} {reply : Reply} {a : α} (first : reply.first read = .ok a) :
    ∃ row more, reply = .rows (row :: more) ∧ read row = .ok a := by
  rcases reply with (_ | ⟨row, more⟩) | count | fault
  · cases first
  · exact ⟨row, more, rfl, ok_of_mapError first⟩
  · cases first
  · cases first

theorem rows_of_first? {α : Type} {read : RowReader α} {reply : Reply} {a : α} (first : reply.first? read = .ok (some a)) :
    ∃ row more, reply = .rows (row :: more) ∧ read row = .ok a := by
  rcases reply with (_ | ⟨row, more⟩) | count | fault
  · cases first
  · have mapped := ok_of_mapError first
    cases reads : read row with
    | error e => rw [reads] at mapped; cases mapped
    | ok b =>
      rw [reads] at mapped
      obtain rfl := Option.some.inj (Except.ok.inj mapped)
      exact ⟨row, more, rfl, reads⟩
  · cases first
  · cases first

end AssetRegistry.Store

namespace AssetRegistry
open Store Service Exchange

namespace Users
variable {rule : List Event → Message → Prop}

/-- A user is inserted, then given the role, once the store has told who it is. -/
theorem obeys_insert {user : NewUser} (inserts : ∀ past, rule past (.statement (.insertUser user)))
    (grants : ∀ past userId, JustInserted userId past → rule past (.statement (.addRole userId user.role))) :
    (insert user).Obeys rule := by
  intro past
  unfold insert addRole
  rw [fetchOne_eq_single, ensures_bind, ensures_single]
  refine ⟨inserts past, fun reply now answered => ⟨fun created first => ?_, fun _ _ => trivial⟩⟩
  obtain ⟨row, more, rfl, reads⟩ := rows_of_first first
  have granted := grants now created.id ⟨past, user, row, more, created, answered, reads, rfl⟩
  rw [ensures_bind, ensures_bind, execute_eq_single, ensures_single]
  exact ⟨granted, fun _ _ _ => ⟨fun _ _ => trivial, fun _ _ => trivial⟩⟩

theorem obeys_findOrProvision {email : String} (looks : ∀ past, rule past (.statement (.findUserByEmail email)))
    (opens : ∀ past, rule past .begin) (closes : ∀ past, rule past .commit) (undoes : ∀ past, rule past .rollback)
    (inserts : (insert (newcomer email)).Obeys rule) : (findOrProvision email).Obeys rule := by
  have looked : (stored (lookUpByEmail email)).Obeys rule := (obeys_fetchOptional looks _).mapError _
  have again : (lookAgain email).Obeys rule := by
    refine looked.bind fun found => ?_
    cases found with
    | none => exact obeys_throw _
    | some user => exact obeys_pure user
  have resumed (ended : Settled StoreError User) : (resume email ended).Obeys rule := by
    rcases ended with user | e | e
    · exact obeys_pure user
    · cases e with
      | conflict constraint => exact again
      | _ => exact obeys_throw _
    · exact obeys_throw _
  refine looked.bind fun found => ?_
  cases found with
  | some user => exact obeys_pure user
  | none =>
    rw [provision_eq]
    refine fun past => Dialogue.ensures_bind.2 ((inserts.settle opens closes undoes past).mono fun ended now _ => ?_)
    exact resumed ended now

variable {may : Role → Prop}

theorem granting_begin (past : List Event) : Granting may past .begin := by rintro _ ⟨⟩

theorem granting_commit (past : List Event) : Granting may past .commit := by rintro _ ⟨⟩

theorem granting_rollback (past : List Event) : Granting may past .rollback := by rintro _ ⟨⟩

theorem granting_unlisted {q : Statement} (unlisted : q.query? = none) (ungranting : q.grant? = none) (past : List Event) :
    Granting may past (.statement q) := by
  rintro _ ⟨⟩
  exact ⟨by simp [Statement.Listed, unlisted], fun _ _ grants => by rw [ungranting] at grants; cases grants⟩

theorem granting_insert {user : NewUser} (allowed : may user.role) : (insert user).Obeys (Granting may) := by
  refine obeys_insert (granting_unlisted rfl rfl) fun past userId inserted => ?_
  rintro _ ⟨⟩
  refine ⟨by rintro _ ⟨⟩, ?_⟩
  rintro _ _ ⟨⟩
  exact ⟨allowed, inserted⟩

theorem granting_enrol {user : NewUser} (allowed : may user.role) : (enrol user).Obeys (Granting may) := by
  have looked : (stored (lookUpByEmail user.email)).Obeys (Granting may) :=
    (obeys_fetchOptional (granting_unlisted rfl rfl) _).mapError _
  exact looked.bind fun _ => obeys_ite (obeys_throw _) ((granting_insert allowed).mapError _)

/-- A user who passes the check gets the role that was asked for, which the caller may give. -/
theorem may_of_checkCreate {desk : Desk} {actor : Actor} {req : CreateUser} {user : NewUser}
    (checked : checkCreate desk actor req = .ok user) :
    user.role = req.role ∧ actor.role.creationBar? req.role = none := by
  unfold checkCreate at checked
  cases bar : actor.role.creationBar? req.role with
  | some reason => rw [bar] at checked; cases checked
  | none =>
    rw [bar] at checked
    obtain ⟨_, -, checked⟩ := ok_of_bind checked
    obtain ⟨_, -, checked⟩ := ok_of_bind checked
    obtain ⟨_, -, checked⟩ := ok_of_bind checked
    obtain rfl := Except.ok.inj checked
    exact ⟨rfl, rfl⟩

theorem granting_signIn (desk : Desk) (req : Login) (user : User) : (signIn desk req user).Obeys (Granting may) := by
  have sends : (signIn desk req user).Sends (Authored user.id) :=
    (sends_stored (sends_fetchAll (anonymous rfl rfl rfl) _)).bind fun _ => sends_ofExcept _
  exact sends.obeys fun _ _ => granting_of_authored

/-- A log-in gives the least role, and to nobody but a newcomer. -/
theorem granting_login (desk : Desk) (req : Login) : (login desk req).Obeys (Granting (· = .employee)) := by
  cases validated : desk.policy.validate req.email with
  | error e =>
    rw [login_of_invalid validated]
    exact obeys_throw _
  | ok email =>
    rw [login_of_valid validated]
    have inserts : (insert (newcomer email)).Obeys (Granting (· = .employee)) := granting_insert rfl
    have found := obeys_findOrProvision (granting_unlisted rfl rfl) granting_begin granting_commit granting_rollback inserts
    exact found.bind (granting_signIn desk req)

theorem granting_refresh (desk : Desk) (req : Refresh) : (refresh desk req).Obeys (Granting may) := by
  have sends : (refresh desk req).Sends (Authored (.ofNat 0)) := by
    refine (sends_ofExcept _).bind fun pair => ?_
    refine (sends_stored (sends_fetchOptional (anonymous rfl rfl rfl) _)).bind fun found => ?_
    refine sends_ite (sends_throw _) ((sends_stored (sends_fetchAll (anonymous rfl rfl rfl) _)).bind fun _ => ?_)
    exact sends_ofExcept _
  exact sends.obeys fun _ _ => granting_of_authored

end Users

/-- The token says that the user may act in the role. -/
def Issuer.Vouches (issuer : Issuer) (token : String) (userId : Uuid) (role : Role) : Prop :=
  ∃ claims : AccessClaims, token = issuer.sign claims.toJson ∧ claims.kind = .access ∧ claims.userId = userId ∧
    claims.role = role

/-- An issued token is vouched for. -/
theorem Issuer.vouches_of_issueAccess {issuer : Issuer} {now : Instant} {userId : Uuid} {role : Role} {token : String}
    (issues : issuer.issueAccess now userId role = .ok token) : issuer.Vouches token userId role := by
  obtain ⟨expires, -, signed⟩ := ok_of_bind issues
  exact ⟨_, (Except.ok.inj signed).symm, rfl, rfl, rfl⟩

namespace Users

/-- The most privileged role is held, and none that is held comes before it. -/
theorem mostPrivileged_least {held : List Role} {role : Role} (found : mostPrivileged held = some role) :
    role ∈ held ∧ ∀ other ∈ held, role.rank ≤ other.rank := by
  induction held generalizing role with
  | nil => cases found
  | cons first rest ih =>
    unfold mostPrivileged at found
    cases best : mostPrivileged rest with
    | none =>
      rw [best] at found
      obtain rfl := Option.some.inj found
      cases rest with
      | nil => simp
      | cons second more =>
        unfold mostPrivileged at best
        split at best <;> cases best
    | some other =>
      rw [best] at found
      obtain ⟨held, least⟩ := ih best
      dsimp only at found
      split at found
      next ahead =>
        obtain rfl := Option.some.inj found
        refine ⟨List.mem_cons_self, List.forall_mem_cons.2 ⟨Nat.le_refl _, fun third among => ?_⟩⟩
        exact Nat.le_trans ahead (least third among)
      next behind =>
        obtain rfl := Option.some.inj found
        exact ⟨List.mem_cons_of_mem _ held, List.forall_mem_cons.2 ⟨by omega, least⟩⟩

/-- The role is one of those held: the one asked for, or else the most privileged one. -/
def Picked (held : List Role) (requested : Option Role) (role : Role) : Prop :=
  role ∈ held ∧ (∀ wanted, requested = some wanted → role = wanted) ∧
    (requested = none → ∀ other ∈ held, role.rank ≤ other.rank)

/-- The role that is picked is held, and is the one asked for or else the most privileged. -/
theorem picked_of_pickRole {held : List Role} {requested : Option Role} {role : Role}
    (picks : pickRole held requested = .ok role) : Picked held requested role := by
  unfold pickRole at picks
  cases requested with
  | some wanted =>
    dsimp only at picks
    split at picks
    next holds =>
      obtain rfl := Except.ok.inj picks
      exact ⟨List.contains_iff_mem.1 holds, fun _ same => Option.some.inj same, nofun⟩
    next => cases picks
  | none =>
    dsimp only at picks
    split at picks
    next most =>
      obtain rfl := Except.ok.inj picks
      obtain ⟨holds, least⟩ := mostPrivileged_least most
      exact ⟨holds, nofun, fun _ => least⟩
    next => cases picks

/-- The roles that a reply to the question for them tells of. -/
def rolesTold (rows : List Row) : Except ClientError (List Role) := rows.mapM (Row.scalar .label)

/-- A log-in that lets someone in: the token is for the user it returns, in a role that the store tells of this user and
that is the one asked for, or else the most privileged one. The store is asked for the roles of nobody else. -/
def Admitted (desk : Desk) (req : Login) (events : List Event) (response : LoginResponse) : Prop :=
  ∃ user earlier rows held, response.user = some user ∧
    events = earlier ++ [(.statement (.rolesOf user.id), .rows rows)] ∧
    (∀ e ∈ earlier, ∀ userId, e.1 ≠ .statement (.rolesOf userId)) ∧
    rolesTold rows = .ok held ∧ Picked held req.role response.role ∧
    desk.issuer.Vouches response.accessToken user.id response.role

/-- A renewal that succeeds: both tokens are the issuer's own and of one user, whom the store finds live and holding the
role of the access token, and the new token is for this user in this role. -/
def Renewed (desk : Desk) (req : Refresh) (events : List Event) (response : LoginResponse) : Prop :=
  ∃ (renewing : RefreshClaims) (access : AccessClaims) (row : Row) (more : List Row) (user : User) (rows : List Row)
    (held : List Role),
    desk.issuer.verifyRefresh desk.now req.refreshToken = .ok renewing ∧
    desk.issuer.decodeExpiredAccess req.accessToken = .ok access ∧
    (∃ claims, desk.issuer.openToken req.accessToken = .ok claims) ∧ access.kind = .access ∧
    renewing.userId = access.userId ∧
    events = [(.statement (.findUser access.userId), .rows (row :: more)),
      (.statement (.rolesOf access.userId), .rows rows)] ∧
    User.ofRow row = .ok user ∧ rolesTold rows = .ok held ∧ access.role ∈ held ∧
    response.role = access.role ∧ desk.issuer.Vouches response.accessToken access.userId access.role

theorem against_roles (userId : Uuid) (replies : Nat → Reply) :
    (stored (roles userId)).run.against replies =
      ([(.statement (.rolesOf userId), replies 0)],
        ((replies 0).toRows >>= fun rows => (rolesTold rows).mapError .ofClient).mapError .ofStore) := by
  unfold stored roles fetchAll
  rw [against_mapError, rowsOf_eq_single]
  cases told : (replies 0).toRows with
  | error e =>
    rw [against_single_error told]
    rfl
  | ok rows =>
    rw [against_single_ok told]
    rfl

theorem told_of_roles {userId : Uuid} {replies : Nat → Reply} {held : List Role} {role : Role}
    (answers : ((stored (roles userId)).run.against replies).2 = .ok held) (holds : role ∈ held) :
    ∃ rows, replies 0 = .rows rows ∧ rolesTold rows = .ok held := by
  rw [against_roles] at answers
  obtain ⟨rows, told, reads⟩ := ok_of_bind (ok_of_mapError answers)
  cases reply : replies 0 with
  | rows found =>
    rw [reply] at told
    obtain rfl := Except.ok.inj told
    exact ⟨found, rfl, ok_of_mapError reads⟩
  | affected count =>
    rw [reply] at told
    obtain rfl := Except.ok.inj told
    obtain rfl := Except.ok.inj reads
    cases holds
  | failed fault => rw [reply] at told; cases told

/-- An exchange that succeeds has gone through both of its parts. -/
theorem ok_of_against_bind {ε α β : Type} {x : Exchange ε α} {f : α → Exchange ε β} {replies : Nat → Reply} {b : β}
    (succeeds : ((x >>= f).run.against replies).2 = .ok b) :
    ∃ a, (x.run.against replies).2 = .ok a ∧
      ((f a).run.against (later replies (x.run.against replies).1)).2 = .ok b ∧
      ((x >>= f).run.against replies).1 =
        (x.run.against replies).1 ++ ((f a).run.against (later replies (x.run.against replies).1)).1 := by
  cases result : (x.run.against replies).2 with
  | error e => rw [against_bind_error result] at succeeds; cases succeeds
  | ok a =>
    rw [against_bind_ok result] at succeeds ⊢
    exact ⟨a, rfl, succeeds, rfl⟩

/-- Whoever is let in is let in by the roles that the store told. -/
theorem login_admits {desk : Desk} {req : Login} {replies : Nat → Reply} {response : LoginResponse}
    (succeeds : ((login desk req).run.against replies).2 = .ok response) :
    Admitted desk req ((login desk req).run.against replies).1 response := by
  cases validated : desk.policy.validate req.email with
  | error e => rw [login_of_invalid validated] at succeeds; cases succeeds
  | ok email =>
    rw [login_of_valid validated] at succeeds ⊢
    obtain ⟨user, found, admits, events⟩ := ok_of_against_bind succeeds
    rw [events]
    unfold signIn at admits ⊢
    obtain ⟨held, answers, issues, asked⟩ := ok_of_against_bind admits
    rw [against_ofExcept] at issues
    obtain ⟨role, picks, issues⟩ := ok_of_bind issues
    obtain ⟨accessToken, issued, issues⟩ := ok_of_bind issues
    obtain ⟨refreshToken, -, issues⟩ := ok_of_bind issues
    obtain rfl := Except.ok.inj issues
    have picked := picked_of_pickRole picks
    obtain ⟨rows, reply, told⟩ := told_of_roles answers picked.1
    have unasked : (findOrProvision email).Obeys fun _ m => ∀ userId, m ≠ .statement (.rolesOf userId) :=
      obeys_findOrProvision (by rintro _ _ ⟨⟩) (by rintro _ _ ⟨⟩) (by rintro _ _ ⟨⟩) (by rintro _ _ ⟨⟩)
        (obeys_insert (by rintro _ _ ⟨⟩) (by rintro _ _ _ _ ⟨⟩))
    refine ⟨user, ((findOrProvision email).run.against replies).1, rows, held, rfl, ?_, ?_, told, picked,
      Issuer.vouches_of_issueAccess (ok_of_mapError issued)⟩
    · rw [asked, against_roles, reply]
      rfl
    · intro e member
      obtain ⟨before, after, occurs⟩ := List.append_of_mem member
      exact unasked.ruled occurs

theorem against_lookUp (userId : Uuid) (replies : Nat → Reply) :
    (stored (lookUp userId)).run.against replies =
      ([(.statement (.findUser userId), replies 0)], ((replies 0).first? User.ofRow).mapError .ofStore) := by
  unfold stored lookUp
  rw [against_mapError, fetchOptional_eq_single]
  rfl

theorem opened_of_decode {issuer : Issuer} {token : String} {access : AccessClaims}
    (decodes : issuer.decodeExpiredAccess token = .ok access) :
    (∃ claims, issuer.openToken token = .ok claims) ∧ access.kind = .access := by
  obtain ⟨read, decoded, rest⟩ := ok_of_bind (ok_of_mapError decodes)
  obtain ⟨_, ofKind, rest⟩ := ok_of_bind rest
  obtain rfl := Except.ok.inj rest
  obtain ⟨claims, opened, -⟩ := ok_of_bind decoded
  refine ⟨⟨claims, opened⟩, ?_⟩
  unfold Issuer.expectKind at ofKind
  split at ofKind
  next same => exact same
  next => cases ofKind

theorem ok_of_require {c : Bool} {refusal : ServiceError} {u : Unit} (passes : require c refusal = .ok u) : c = true := by
  unfold require at passes
  split at passes
  next holds => exact holds
  next => cases passes

/-- What a renewal does once its user is known to be live. -/
def reissue (desk : Desk) (userId : Uuid) (role : Role) : Operation LoginResponse := do
  let held ← stored (roles userId)
  Exchange.ofExcept do
    require (held.contains role) (.forbidden ("user no longer holds role " ++ label role))
    let accessToken ← authorized (desk.issuer.issueAccess desk.now userId role)
    pure { accessToken, refreshToken := none, role, user := none }

theorem refresh_of_pair {desk : Desk} {req : Refresh} {userId : Uuid} {role : Role}
    (paired : checkPair desk req = .ok (userId, role)) :
    refresh desk req = stored (lookUp userId) >>= fun found =>
      if found.isNone then throw (.unauthorized "user no longer exists") else reissue desk userId role := by
  unfold refresh
  rw [paired]
  rfl

theorem refresh_of_unpaired {desk : Desk} {req : Refresh} {e : ServiceError} (unpaired : checkPair desk req = .error e) :
    refresh desk req = throw e := by
  unfold refresh
  rw [unpaired]
  rfl

theorem reissue_vouches {desk : Desk} {userId : Uuid} {role : Role} {replies : Nat → Reply} {response : LoginResponse}
    (succeeds : ((reissue desk userId role).run.against replies).2 = .ok response) :
    ∃ rows held, ((reissue desk userId role).run.against replies).1 = [(.statement (.rolesOf userId), .rows rows)] ∧
      rolesTold rows = .ok held ∧ role ∈ held ∧ response.role = role ∧
      desk.issuer.Vouches response.accessToken userId role := by
  unfold reissue at succeeds ⊢
  obtain ⟨held, answers, issues, asked⟩ := ok_of_against_bind succeeds
  rw [against_ofExcept] at issues
  obtain ⟨_, holds, issues⟩ := ok_of_bind issues
  obtain ⟨accessToken, issued, issues⟩ := ok_of_bind issues
  obtain rfl := Except.ok.inj issues
  have holds : role ∈ held := List.contains_iff_mem.1 (ok_of_require holds)
  obtain ⟨rows, reply, told⟩ := told_of_roles answers holds
  refine ⟨rows, held, ?_, told, holds, rfl, Issuer.vouches_of_issueAccess (ok_of_mapError issued)⟩
  rw [asked, against_roles, reply]
  rfl

/-- Whatever is renewed is renewed for the user and the role of the tokens. -/
theorem refresh_renews {desk : Desk} {req : Refresh} {replies : Nat → Reply} {response : LoginResponse}
    (succeeds : ((refresh desk req).run.against replies).2 = .ok response) :
    Renewed desk req ((refresh desk req).run.against replies).1 response := by
  cases paired : checkPair desk req with
  | error e => rw [refresh_of_unpaired paired] at succeeds; cases succeeds
  | ok pair =>
    obtain ⟨renewing, refreshing, rest⟩ := ok_of_bind paired
    obtain ⟨access, accessing, rest⟩ := ok_of_bind rest
    obtain ⟨_, same, rest⟩ := ok_of_bind rest
    have same : renewing.userId = access.userId := of_decide_eq_true (ok_of_require same)
    obtain rfl := Except.ok.inj rest
    have accessing := ok_of_mapError accessing
    obtain ⟨opened, ofKind⟩ := opened_of_decode accessing
    -- Only with a user found and a role held does the dialogue get to the new token.
    rw [refresh_of_pair paired] at succeeds ⊢
    obtain ⟨found, looked, reissues, events⟩ := ok_of_against_bind succeeds
    rw [events, against_lookUp]
    rw [against_lookUp] at looked reissues
    cases found with
    | none => cases reissues
    | some user =>
      obtain ⟨row, more, reply, reads⟩ := rows_of_first? (ok_of_mapError looked)
      obtain ⟨rows, held, asked, told, holds, sameRole, vouches⟩ := reissue_vouches reissues
      rw [same] at asked vouches ⊢
      refine ⟨renewing, access, row, more, user, rows, held, ok_of_mapError refreshing, accessing, opened, ofKind, same, ?_,
        reads, told, holds, sameRole, vouches⟩
      rw [reply]
      exact congrArg _ asked

end Users

namespace Service

/-- The roles that a call may give to a user: the least one at a log-in, and otherwise those that its caller may give. -/
def Call.MayGrant : Call → Role → Prop
  | .login _ _, role => role = .employee
  | .mutation (.createUser _ actor req), role => role = req.role ∧ actor.role.creationBar? role = none
  | _, _ => False

/-- No call may make administrators. -/
theorem Call.spares_admin {call : Call} {role : Role} (may : call.MayGrant role) : role ≠ .admin := by
  rintro rfl
  unfold MayGrant at may
  split at may
  · cases may
  · next actor _ =>
    obtain ⟨-, free⟩ := may
    cases acting : actor.role <;> rw [acting] at free <;> cases free
  · exact may

-- Otherwise an operation is carried out wherever a goal is compared with what it sends.
attribute [local irreducible] Exchange.Sends Exchange.Obeys

theorem granting_mutation (m : Mutation) : m.operation.Obeys (Granting (Call.mutation m).MayGrant) := by
  have modest {userId : Uuid} {x : Operation m.Result} (sends : x.Sends (Authored userId)) :
      x.Obeys (Granting (Call.mutation m).MayGrant) := sends.obeys fun _ _ => granting_of_authored
  cases m with
  | createAsset actor req => exact modest (Assets.authored_create actor req)
  | updateAsset actor id req => exact modest (Assets.authored_update actor id req)
  | assignAsset req => exact modest (Assets.authored_assign req.userId req)
  | retrieveAsset id => exact modest (Assets.authored_retrieve id id)
  | archiveAsset actor id => exact modest (Assets.authored_archive actor id)
  | createUser desk actor req =>
    refine obeys_checked fun user checked => ?_
    obtain ⟨role, free⟩ := Users.may_of_checkCreate checked
    have allowed : (Call.mutation (.createUser desk actor req)).MayGrant user.role := ⟨role, role ▸ free⟩
    exact (Users.granting_enrol allowed).transaction Users.granting_begin Users.granting_commit Users.granting_rollback
  | updateUser desk actor id patch => exact modest (Users.authored_update desk actor id patch)
  | deleteUser actor id => exact modest (Users.authored_delete actor id)

/-- Every call keeps to the roles that it may give. -/
theorem granting_call (call : Call) : call.operation.Obeys (Granting call.MayGrant) := by
  have modest {userId : Uuid} {x : Operation call.Result} (sends : x.Sends (Authored userId)) :
      x.Obeys (Granting call.MayGrant) := sends.obeys fun _ _ => granting_of_authored
  cases call with
  | mutation m => exact granting_mutation m
  | findAsset id => exact modest (Assets.authored_find id id)
  | assetDetail id => exact modest (Assets.authored_detail id id)
  | isAvailable id => exact modest (Assets.authored_isAvailable id id)
  | listAssets filter page => exact modest (Assets.authored_list (.ofNat 0) filter page)
  | assetTimeline id => exact modest (Assets.authored_timeline id id)
  | assetsOfUser id => exact modest (Users.authored_timeline id id)
  | login desk req => exact Users.granting_login desk req
  | refresh desk req => exact Users.granting_refresh desk req
  | listUsers filter page => exact modest (Users.authored_list (.ofNat 0) filter page)
  | userDetails id => exact modest (Users.authored_details id id)
  | userTimeline id => exact modest (Users.authored_timeline id id)
  | activeAssignments id =>
    have sends : (Users.activeAssignments id).Sends (Authored id) := sends_stored (sends_fetchOne (anonymous rfl rfl rfl) _)
    exact modest sends

/-- Whatever the store answers: a log-in and a renewal that succeed issue tokens for roles that the store has told of the
very user, and a role is written for nobody but the user just inserted, if the call may give it; that of an
administrator never is. -/
theorem roles_are_given :
    (∀ desk req replies response, ((Users.login desk req).run.against replies).2 = .ok response →
      Users.Admitted desk req ((Users.login desk req).run.against replies).1 response) ∧
    (∀ desk req replies response, ((Users.refresh desk req).run.against replies).2 = .ok response →
      Users.Renewed desk req ((Users.refresh desk req).run.against replies).1 response) ∧
    ∀ (call : Call) replies before q reply after,
      (call.operation.run.against replies).1 = before ++ (.statement q, reply) :: after →
      q.command.InsertsInto "user_roles" →
      ∃ userId role, q.given ["user_id"] = [.uuid userId] ∧ q.given ["role"] = [.ofLabel role] ∧
        JustInserted userId before ∧ call.MayGrant role ∧ role ≠ .admin := by
  refine ⟨fun _ _ _ _ => Users.login_admits, fun _ _ _ _ => Users.refresh_renews, ?_⟩
  intro call replies before q reply after occurs inserts
  obtain ⟨listed, grants⟩ := (granting_call call).ruled occurs q rfl
  obtain ⟨userId, role, rfl⟩ := Statement.grant_of_insert listed inserts
  obtain ⟨may, inserted⟩ := grants userId role rfl
  obtain ⟨forUser, ofRole⟩ := Statement.given_addRole userId role
  exact ⟨userId, role, forUser, ofRole, inserted, may, Call.spares_admin may⟩

/-- Nobody has the address, so a user is inserted and given a role. -/
def newcomerReplies : Nat → Reply
  | 0 => .rows []
  | 2 => raceReplies 4
  | 5 => raceReplies 5
  | _ => .affected 1

theorem newcomer_events : ((Call.login frontDesk raceLogin).operation.run.against newcomerReplies).1 =
    [(.statement (.findUserByEmail "ann@acme.com"), .rows []), (.begin, .affected 1),
        (.statement (.insertUser (Users.newcomer "ann@acme.com")), raceReplies 4)] ++
      (.statement (.addRole (.ofNat 4) .employee), .affected 1) ::
      [(.commit, .affected 1), (.statement (.rolesOf (.ofNat 4)), raceReplies 5)] := by
  show ((Users.login frontDesk raceLogin).run.against newcomerReplies).1 = _
  rw [Users.login_of_valid frontDesk_validates]
  rfl

/-- Fifty minutes after the log-in, when its access token has expired. -/
def laterDesk : Users.Desk := { frontDesk with now := ⟨3000000000⟩ }

/-- The newcomer renews with the two tokens of the log-in. -/
def renewal : Refresh where
  refreshToken := frontDesk.issuer.sign (RefreshClaims.toJson ⟨.ofNat 4, .refresh, 3600, 0⟩)
  accessToken := frontDesk.issuer.sign (AccessClaims.toJson ⟨.ofNat 4, .employee, .access, 60, 0⟩)

/-- The user is still there, and still an employee. -/
def renewalReplies : Nat → Reply
  | 0 => raceReplies 4
  | _ => raceReplies 5

/-- The tokens go together, though one of them has expired. -/
theorem renewal_paired : Users.checkPair laterDesk renewal = .ok (.ofNat 4, .employee) := by
  have renewing : laterDesk.issuer.verifyRefresh laterDesk.now renewal.refreshToken = .ok ⟨.ofNat 4, .refresh, 3600, 0⟩ :=
    (Issuer.verifyRefresh_sign rfl rfl (by decide) _).trans (if_pos (by decide))
  have expired : laterDesk.issuer.decodeExpiredAccess renewal.accessToken = .ok ⟨.ofNat 4, .employee, .access, 60, 0⟩ :=
    Issuer.decodeAccess_sign rfl rfl (by decide) none
  unfold Users.checkPair
  rw [renewing, expired]
  rfl

/-- A newcomer is let in with the least role, which is written for the user just inserted, and renews the token later. -/
theorem newcomer_admitted_renewed :
    (∃ response, ((Users.login frontDesk raceLogin).run.against newcomerReplies).2 = .ok response ∧
      Users.Admitted frontDesk raceLogin ((Users.login frontDesk raceLogin).run.against newcomerReplies).1 response) ∧
    (∃ response, ((Users.refresh laterDesk renewal).run.against renewalReplies).2 = .ok response ∧
      Users.Renewed laterDesk renewal ((Users.refresh laterDesk renewal).run.against renewalReplies).1 response) ∧
    ∃ userId role, (Statement.addRole (.ofNat 4) .employee).given ["user_id"] = [.uuid userId] ∧
      JustInserted userId [(.statement (.findUserByEmail "ann@acme.com"), .rows []), (.begin, .affected 1),
        (.statement (.insertUser (Users.newcomer "ann@acme.com")), raceReplies 4)] ∧
      (Call.login frontDesk raceLogin).MayGrant role := by
  have admitted : ((Users.login frontDesk raceLogin).run.against newcomerReplies).2.isOk = true := by decide +kernel
  have renewed : ((Users.refresh laterDesk renewal).run.against renewalReplies).2.isOk = true := by
    rw [Users.refresh_of_pair renewal_paired]
    decide +kernel
  have ok_of_isOk {result : Except ServiceError Users.LoginResponse} (isOk : result.isOk = true) :
      ∃ response, result = .ok response := by
    cases result with
    | ok response => exact ⟨response, rfl⟩
    | error e => cases isOk
  obtain ⟨admits, renews, grants⟩ := roles_are_given
  obtain ⟨admission, admitted⟩ := ok_of_isOk admitted
  obtain ⟨renewal', renewed⟩ := ok_of_isOk renewed
  refine ⟨⟨admission, admitted, admits _ _ _ _ admitted⟩, ⟨renewal', renewed, renews _ _ _ _ renewed⟩, ?_⟩
  have inserts : (Statement.addRole (.ofNat 4) .employee).command.InsertsInto "user_roles" := by
    rw [Statement.command_of_spelled (q := .addRole _ _) String.toList_ofList]
    decide +kernel
  have granted := grants (.login frontDesk raceLogin) newcomerReplies _ _ _ _ newcomer_events
  obtain ⟨userId, role, forUser, -, inserted, may, -⟩ := granted inserts
  exact ⟨userId, role, forUser, inserted, may⟩

end Service
end AssetRegistry
