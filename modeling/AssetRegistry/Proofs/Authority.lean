import AssetRegistry.Proofs.Bearers
import AssetRegistry.Proofs.Runs
import AssetRegistry.Proofs.Stamps
import Mathlib.Tactic.SplitIfs

namespace AssetRegistry.Web

open Store Exchange

/-- The paths that need no token. -/
def openPaths : List (List Char) := ["/health".toList, "/api/auth/login".toList, "/api/auth/refresh".toList]

/-- Some piece of a path, as it names a user or an asset. -/
def IsPiece (id : List Char) : Prop := id ≠ [] ∧ '/' ∉ id

/-- The paths under which a role may act. -/
inductive Permitted : List Char → Role → Prop
  | users {role : Role} : role ∈ [.admin, .employeeManager] → Permitted "/api/users".toList role
  | user {id : List Char} {role : Role} : IsPiece id → role ∈ [.admin, .employeeManager] →
      Permitted ("/api/users/".toList ++ id) role
  | userTimeline {id : List Char} {role : Role} : IsPiece id → role ∈ [.admin, .employeeManager, .assetManager] →
      Permitted ("/api/users/".toList ++ id ++ "/timeline".toList) role
  | assets {role : Role} : role ∈ [.admin, .assetManager] → Permitted "/api/assets".toList role
  | asset {id : List Char} {role : Role} : IsPiece id → role ∈ [.admin, .assetManager] →
      Permitted ("/api/assets/".toList ++ id) role
  | ofAsset {id part : List Char} {role : Role} : IsPiece id → part = "/retrieve".toList ∨ part = "/timeline".toList →
      role ∈ [.admin, .assetManager] → Permitted ("/api/assets/".toList ++ id ++ part) role

/-- The piece of a path that names something. -/
def Route.id? : Route → Option (List Char)
  | .guarded (.user id) | .guarded (.userTimeline id) | .guarded (.asset id) | .guarded (.retrieve id)
  | .guarded (.assetTimeline id) => some id
  | _ => none

/-- The pieces of the paths that lead to a route. -/
def Route.pieces : Route → List (List Char)
  | .unguarded .health => [[], "health".toList]
  | .unguarded .login => [[], "api".toList, "auth".toList, "login".toList]
  | .unguarded .refresh => [[], "api".toList, "auth".toList, "refresh".toList]
  | .guarded .users => [[], "api".toList, "users".toList]
  | .guarded (.user id) => [[], "api".toList, "users".toList, id]
  | .guarded (.userTimeline id) => [[], "api".toList, "users".toList, id, "timeline".toList]
  | .guarded .assets => [[], "api".toList, "assets".toList]
  | .guarded .assign => [[], "api".toList, "assets".toList, "assign".toList]
  | .guarded (.asset id) => [[], "api".toList, "assets".toList, id]
  | .guarded (.retrieve id) => [[], "api".toList, "assets".toList, id, "retrieve".toList]
  | .guarded (.assetTimeline id) => [[], "api".toList, "assets".toList, id, "timeline".toList]

theorem Route.pieces_of_ofPieces? {pieces : List (List Char)} {route : Route} (routed : ofPieces? pieces = some route) :
    pieces = route.pieces ∧ ∀ id ∈ route.id?, id ≠ [] := by
  unfold ofPieces? at routed
  split at routed
  · split_ifs at routed with health
    obtain rfl := Option.some.inj routed
    exact ⟨by rw [health]; rfl, nofun⟩
  · simp only [bne_iff_ne, ne_eq] at routed
    split_ifs at routed with api users assets
    all_goals
      obtain rfl := Option.some.inj routed
      obtain rfl := api
      refine ⟨?_, nofun⟩
    · rw [users]; rfl
    · rw [assets]; rfl
  · simp only [bne_iff_ne, ne_eq, Bool.or_eq_true, List.isEmpty_iff] at routed
    split_ifs at routed with refused auth login refresh users assets assign
    all_goals
      obtain rfl := Option.some.inj routed
      simp only [not_or, Classical.not_not] at refused
      obtain ⟨rfl, named⟩ := refused
    · exact ⟨by rw [auth, login]; rfl, nofun⟩
    · exact ⟨by rw [auth, refresh]; rfl, nofun⟩
    · exact ⟨by rw [users]; rfl, by rintro _ ⟨⟩; exact named⟩
    · exact ⟨by rw [assets, assign]; rfl, nofun⟩
    · exact ⟨by rw [assets]; rfl, by rintro _ ⟨⟩; exact named⟩
  · simp only [bne_iff_ne, ne_eq, Bool.or_eq_true, List.isEmpty_iff, Bool.and_eq_true, decide_eq_true_eq] at routed
    split_ifs at routed with refused timeline retrieve history
    all_goals
      obtain rfl := Option.some.inj routed
      simp only [not_or, Classical.not_not] at refused
      obtain ⟨rfl, named⟩ := refused
      refine ⟨?_, by rintro _ ⟨⟩; exact named⟩
    · rw [timeline.1, timeline.2]; rfl
    · rw [retrieve.1, retrieve.2]; rfl
    · rw [history.1, history.2]; rfl
  · cases routed

/-- A path that leads to a route is written as the pieces of the route with slashes between them. -/
theorem Route.path_of_ofPath? {path : List Char} {route : Route} (routed : ofPath? path = some route) :
    path = List.intercalate ['/'] route.pieces ∧ ∀ id ∈ route.id?, IsPiece id := by
  obtain ⟨split, named⟩ := pieces_of_ofPieces? routed
  have apart {piece : List Char} (member : piece ∈ route.pieces) : '/' ∉ piece :=
    Text.not_mem_of_mem_splitAll (split ▸ member)
  refine ⟨by rw [← split, Text.intercalate_splitAll], fun id isId => ⟨named id isId, apart ?_⟩⟩
  unfold id? at isId
  split at isId
  all_goals first | cases isId; simp [pieces] | cases isId

theorem open_of_route {path : List Char} {route : OpenRoute} (routed : Route.ofPath? path = some (.unguarded route)) :
    path ∈ openPaths := by
  rw [(Route.path_of_ofPath? routed).1]
  cases route <;> decide

/-- The roles of a route are those that may act under its paths. -/
theorem permitted_of_route {path : List Char} {route : GuardedRoute} (routed : Route.ofPath? path = some (.guarded route))
    {role : Role} (allowed : role ∈ route.roles) : Permitted path role := by
  obtain ⟨shape, named⟩ := Route.path_of_ofPath? routed
  have along {other : List Char} (same : List.intercalate ['/'] (Route.guarded route).pieces = other)
      (permitted : Permitted other role) : Permitted path role := by rwa [shape, same]
  cases route with
  | users => exact along (by decide) (.users allowed)
  | user id => exact along (by simp [Route.pieces, List.intercalate]) (.user (named id rfl) allowed)
  | userTimeline id => exact along (by simp [Route.pieces, List.intercalate]) (.userTimeline (named id rfl) allowed)
  | assets => exact along (by decide) (.assets allowed)
  | assign =>
    have shape : List.intercalate ['/'] (Route.guarded .assign).pieces = "/api/assets/".toList ++ "assign".toList := by
      decide
    exact along shape (.asset ⟨by decide, by decide⟩ allowed)
  | asset id => exact along (by simp [Route.pieces, List.intercalate]) (.asset (named id rfl) allowed)
  | retrieve id =>
    exact along (by simp [Route.pieces, List.intercalate]) (.ofAsset (named id rfl) (Or.inl rfl) allowed)
  | assetTimeline id =>
    exact along (by simp [Route.pieces, List.intercalate]) (.ofAsset (named id rfl) (Or.inr rfl) allowed)

theorem sends_perform {α : Type} {kind : Message → Prop} {x : Service.Operation α} (sends : x.Sends kind) :
    (perform x).Sends kind := sends.mapError _

-- Otherwise an operation is carried out wherever a goal is compared with what it sends.
attribute [local irreducible] Exchange.Sends

theorem sends_allow {α : Type} {kind : Message → Prop} (x : Except ApiError α) : (allow x).Sends kind := sends_ofExcept _

theorem sends_pieceText {kind : Message → Prop} (piece : List Char) : (pieceText piece).Sends kind := by
  unfold pieceText
  split
  · exact sends_pure _
  · exact sends_throw _

theorem sends_pathId {kind : Message → Prop} (piece : List Char) (what : String) : (pathId piece what).Sends kind :=
  (sends_pieceText piece).bind fun _ => sends_allow _

/-- An operation on what a path names. -/
theorem sends_named {α : Type} {kind : Message → Prop} {piece : List Char} {what : String}
    {work : Uuid → Service.Operation α} (sends : ∀ id, (work id).Sends kind) (respond : α → Response) :
    (do return respond (← perform (work (← pathId piece what))) : Handling Response).Sends kind :=
  (sends_pathId piece what).bind fun id => (sends_perform (sends id)).bind fun _ => sends_pure _

/-- An operation on what a request's body says. -/
theorem sends_read {α β : Type} {kind : Message → Prop} {x : Except ApiError α}
    {work : α → Service.Operation β} (sends : ∀ req, (work req).Sends kind) (respond : β → Response) :
    (do return respond (← perform (work (← allow x))) : Handling Response).Sends kind :=
  (sends_allow x).bind fun req => (sends_perform (sends req)).bind fun _ => sends_pure _

/-- The work of a guarded route is stamped by the caller. -/
theorem stamped_serveGuarded (app : App) (actor : Actor) (r : Request) (route : GuardedRoute) :
    (serveGuarded app actor r route).Sends (StampedBy actor.userId) := by
  unfold serveGuarded
  cases route with
  | users =>
    refine sends_ite ?_ ?_
    · exact sends_read (fun filter => (Users.authored_list actor.userId filter _).stamped) _
    · refine sends_read (fun req => sends_checked fun user _ => ?_) _
      exact (Users.stamped_enrol _ user).transaction authored_begin.stampedBy authored_commit.stampedBy
        authored_rollback.stampedBy
  | user id =>
    refine sends_ite (sends_named (fun id => (Users.authored_details actor.userId id).stamped) _) (sends_ite ?_ ?_)
    · refine (sends_pieceText id).bind fun text => (sends_allow _).bind fun patch => (sends_allow _).bind fun id => ?_
      exact (sends_perform (Users.authored_update app.desk actor id patch).stamped).bind fun _ => sends_pure _
    · exact sends_named (fun id => (Users.authored_delete actor id).stamped) fun _ => .noContent
  | userTimeline id => exact sends_named (fun id => (Users.authored_timeline actor.userId id).stamped) _
  | assets =>
    refine sends_ite ?_ ?_
    · exact sends_read (fun filter => (Assets.authored_list actor.userId filter _).stamped) _
    · exact sends_read (fun req => (Assets.authored_create actor req).stamped) _
  | assign => exact sends_read (fun req => (Assets.authored_assign actor.userId req).stamped) _
  | asset id =>
    refine sends_ite (sends_named (fun id => (Assets.authored_detail actor.userId id).stamped) _) (sends_ite ?_ ?_)
    · refine (sends_pieceText id).bind fun text => (sends_allow _).bind fun req => (sends_allow _).bind fun id => ?_
      exact (sends_perform (Assets.authored_update actor id req).stamped).bind fun _ => sends_pure _
    · exact sends_named (fun id => (Assets.authored_archive actor id).stamped) fun _ => .noContent
  | retrieve id =>
    refine (sends_pathId id "asset").bind fun id => ?_
    exact (sends_perform (Assets.authored_retrieve actor.userId id).stamped).bind fun _ => sends_pure _
  | assetTimeline id => exact sends_named (fun id => (Assets.authored_timeline actor.userId id).stamped) _

/-- Who is not let in costs the store nothing. -/
theorem handle_refused {app : App} {r : Request} {route : GuardedRoute} {e : ApiError}
    (refused : letIn app r route = .error e) : (handle app r (.guarded route)).run = .done (.error (.refused e)) := by
  unfold handle
  dsimp only
  rw [refused]
  rfl

/-- For who is let in the route's method does its work. -/
theorem handle_admitted {app : App} {r : Request} {route : GuardedRoute} {actor : Actor}
    (admitted : letIn app r route = .ok actor) :
    handle app r (.guarded route) =
      if (Route.guarded route).methods.contains r.method then serveGuarded app actor r route
      else pure methodNotAllowed := by
  unfold handle
  dsimp only
  rw [admitted]
  rfl

/-- Whatever is sent for a request is sent by the work of its route. -/
theorem App.sent_eq {app : App} {r : Request} {route : Route} (routed : Route.ofPath? r.path = some route)
    (asked : app.isPreflight r = false) (replies : Nat → Reply) :
    ((app.answer r).against replies).1 = ((handle app r route).run.against replies).1 := by
  unfold answer respond
  rw [routed]
  dsimp only
  rw [asked, if_neg Bool.false_ne_true, Dialogue.against_bind, Dialogue.against_bind]
  cases ((handle app r route).run.against replies).2 <;> simp [pure, Dialogue.against]

/-- Either the store has no part in the answer, or the request has a bearer who may act and stamps what is sent. -/
theorem App.respond_cases (app : App) (r : Request) (guarded : r.path ∉ openPaths) :
    (∃ response, app.respond r = .done response) ∨
      ∃ claims, app.Bears r claims ∧ Permitted r.path claims.role ∧
        (app.respond r).Ensures (.only (StampedBy claims.userId)) () fun _ _ => True := by
  unfold respond
  cases routed : Route.ofPath? r.path with
  | none => exact Or.inl ⟨_, rfl⟩
  | some route =>
    dsimp only
    by_cases preflight : app.isPreflight r
    · rw [if_pos preflight]
      exact Or.inl ⟨_, rfl⟩
    rw [if_neg preflight]
    cases route with
    | unguarded inner => exact absurd (open_of_route routed) guarded
    | guarded inner =>
      cases admitted : letIn app r inner with
      | error e =>
        rw [handle_refused admitted]
        exact Or.inl ⟨_, rfl⟩
      | ok actor =>
        obtain ⟨claims, bears, rfl, allowed⟩ := bears_of_letIn admitted
        refine Or.inr ⟨claims, bears, permitted_of_route routed allowed, Dialogue.ensures_bind.2 ?_⟩
        rw [handle_admitted admitted]
        have sends := sends_ite (c := (Route.guarded inner).methods.contains r.method)
          (stamped_serveGuarded app ⟨claims.userId, claims.role⟩ r inner) (sends_pure methodNotAllowed)
        refine sends.run.mono fun result _ _ => ?_
        cases result <;> trivial

/-- Up to three paths that are for everyone, nothing is sent for a request unless its bearer may act under its path, and
whatever is sent names no one but the bearer. Without such a bearer the store has no part in the answer. -/
theorem App.acts_for_bearer (app : App) (r : Request) (guarded : r.path ∉ openPaths) :
    (∀ replies, ((app.answer r).against replies).1 ≠ [] →
      ∃ claims, app.Bears r claims ∧ Permitted r.path claims.role ∧
        ∀ q reply, (.statement q, reply) ∈ ((app.answer r).against replies).1 →
          ∀ v ∈ q.given ["created_by", "updated_by"], v = .uuid claims.userId) ∧
    ((¬∃ claims, app.Bears r claims ∧ Permitted r.path claims.role) →
      ∀ replies, (app.answer r).against replies = ([], app.answerUnconnected r)) := by
  obtain ⟨response, done⟩ | ⟨claims, bears, permitted, sends⟩ := app.respond_cases r guarded
  · have answered (replies : Nat → Reply) : (app.answer r).against replies = ([], app.answerUnconnected r) := by
      unfold answer answerUnconnected
      rw [done]
      rfl
    exact ⟨fun replies sent => absurd (by rw [answered]) sent, fun _ => answered⟩
  · refine ⟨fun replies _ => ⟨claims, bears, permitted, fun q reply member => ?_⟩, fun none => ?_⟩
    case refine_2 => exact absurd ⟨claims, bears, permitted⟩ none
    have answers : (app.answer r).Ensures (.only (StampedBy claims.userId)) () fun _ _ => True :=
      Dialogue.ensures_bind.2 (sends.mono fun _ _ _ => trivial)
    exact Dialogue.kind_of_mem answers member q rfl

/-- A service that no other sites may ask. -/
def closedApp : App where
  desk :=
    { issuer := { secret := [1], accessLifetime := 60, refreshLifetime := 3600 }
      policy := .ofDomain "acme.com"
      now := ⟨0⟩ }
  api := { listensOn := 8080, requestTimeout := 30, defaultPageSize := 20, maxPageSize := 100 }
  enableCors := false

/-- An administrator, for an hour. -/
def adminClaims : AccessClaims := ⟨.ofNat 9, .admin, .access, 3600, 0⟩

/-- The piece of a path that names the seventh asset. -/
def seventhAsset : List Char := "00000000-0000-0000-0000-000000000007".toList

theorem pathId_seventhAsset : pathId seventhAsset "asset" = pure (.ofNat 7) := by
  have text : Text.ofUtf8? (Text.unescape (seventhAsset.flatMap String.utf8EncodeChar)) =
      some (.ofList seventhAsset) := by decide +kernel
  have reads : parseId (.ofList seventhAsset) "asset" = .ok (.ofNat 7) := by decide +kernel
  unfold pathId pieceText
  rw [text]
  show allow (parseId (.ofList seventhAsset) "asset") = _
  rw [reads]
  rfl

/-- The asset is to be archived for nobody. -/
def anonymousRequest : Request := { method := "DELETE", target := "/api/assets/00000000-0000-0000-0000-000000000007" }

/-- The asset is to be archived for an administrator. -/
def archivingRequest : Request :=
  .carrying "DELETE" anonymousRequest.target (closedApp.desk.issuer.sign adminClaims.toJson)

/-- The asset is live, and nobody has it. -/
def archivingReplies : Nat → Reply
  | 1 => .rows [[("id", .uuid (.ofNat 7))]]
  | 2 => .rows [[("exists", .flag false)]]
  | _ => .affected 1

theorem archiving_bears : closedApp.Bears archivingRequest adminClaims := bears_of_sign _ _ rfl (by decide) (by decide)

/-- The asset is locked, found free, and archived in the administrator's name. -/
theorem archiving_sent : ((closedApp.answer archivingRequest).against archivingReplies).1 =
    [(.begin, .affected 1), (.statement (.lockAsset (.ofNat 7)), archivingReplies 1),
      (.statement (.isAssigned (.ofNat 7)), archivingReplies 2),
      (.statement (.archiveAsset (.ofNat 7) (.ofNat 9)), .affected 1), (.commit, .affected 1)] := by
  have routed : Route.ofPath? archivingRequest.path = some (.guarded (.asset seventhAsset)) := by decide +kernel
  have admitted : letIn closedApp archivingRequest (.asset seventhAsset) = .ok ⟨.ofNat 9, .admin⟩ :=
    letIn_of_bears archiving_bears (by decide)
  rw [App.sent_eq routed rfl, handle_admitted admitted, if_pos (by decide)]
  show ((archiveAsset ⟨.ofNat 9, .admin⟩ seventhAsset).run.against archivingReplies).1 = _
  rw [archiveAsset, pathId_seventhAsset]
  rfl

/-- An asset is archived for an administrator, and marked in the administrator's name, but not for nobody. -/
theorem archived_for_bearer :
    (archivingRequest.path ∉ openPaths ∧ closedApp.Bears archivingRequest adminClaims ∧
      ∃ claims, closedApp.Bears archivingRequest claims ∧ Permitted archivingRequest.path claims.role ∧
        (Statement.archiveAsset (.ofNat 7) (.ofNat 9)).given ["created_by", "updated_by"] = [.uuid claims.userId]) ∧
    anonymousRequest.path ∉ openPaths ∧
    (∀ replies, (closedApp.answer anonymousRequest).against replies = ([], closedApp.answerUnconnected anonymousRequest)) ∧
    (closedApp.answerUnconnected anonymousRequest).map (·.status) = some 401 := by
  have guarded : archivingRequest.path ∉ openPaths := by decide +kernel
  have nobody : ¬∃ claims, closedApp.Bears anonymousRequest claims ∧ Permitted anonymousRequest.path claims.role := by
    rintro ⟨claims, ⟨bytes, token, header, -⟩, -⟩
    cases header
  have marks : (Statement.archiveAsset (.ofNat 7) (.ofNat 9)).given ["created_by", "updated_by"] = [.uuid (.ofNat 9)] := by
    rw [Statement.given_of_fills rfl rfl]
    simp [Statement.args]
  refine ⟨⟨guarded, archiving_bears, ?_⟩, guarded, (closedApp.acts_for_bearer anonymousRequest guarded).2 nobody,
    by decide +kernel⟩
  obtain ⟨claims, bears, permitted, stamps⟩ :=
    (closedApp.acts_for_bearer archivingRequest guarded).1 archivingReplies (by rw [archiving_sent]; simp)
  refine ⟨claims, bears, permitted, ?_⟩
  have mine := stamps (.archiveAsset (.ofNat 7) (.ofNat 9)) (.affected 1) (by rw [archiving_sent]; simp) (.uuid (.ofNat 9)) (by rw [marks]; simp)
  rw [marks, mine]

end AssetRegistry.Web
