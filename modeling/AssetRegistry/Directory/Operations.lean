import AssetRegistry.Access.Email
import AssetRegistry.Directory.Register
import AssetRegistry.Directory.Request
import AssetRegistry.Ledger.Register
import AssetRegistry.Service.Operation
import AssetRegistry.Token.Issuer

namespace AssetRegistry.Users

open Store Service

/-- What operations on users need besides the store: who issues tokens, which addresses are let in, and the time. -/
structure Desk where
  issuer : Issuer
  policy : EmailPolicy
  now : Instant

/-- What a caller gets who has logged in or renewed a token. -/
structure LoginResponse where
  accessToken : String
  refreshToken : Option String
  role : Role
  user : Option User

def LoginResponse.toJson (r : LoginResponse) : Json :=
  .object (("access_token", .text r.accessToken) ::
    (r.refreshToken.toList.map fun token => ("refresh_token", .text token)) ++
    ("role", Vocabulary.toJson r.role) :: r.user.toList.map fun user => ("user", user.toJson))

/-- Work on tokens and addresses as part of an operation. -/
def authorized {α : Type} (x : Except AuthError α) : Except ServiceError α := x.mapError .ofAuth

def mostPrivileged : List Role → Option Role
  | [] => none
  | role :: roles =>
    match mostPrivileged roles with
    | none => some role
    | some other => some (if role.rank ≤ other.rank then role else other)

/-- The requested role if it is held; without a request the most privileged one that is held. -/
def pickRole (held : List Role) : Option Role → Except ServiceError Role
  | some role =>
    if held.contains role then .ok role else .error (.forbidden ("user does not hold role " ++ label role))
  | none =>
    match mostPrivileged held with
    | some role => .ok role
    | none => .error (.forbidden "user has no roles")

/-- Ten digits and nothing else. -/
def isPhone (s : String) : Bool := s.toList.length = 10 && s.toList.all fun c => (Text.digitValue? c).isSome

/-- A phone number without blanks around it; a blank one is none. -/
def normalizePhone : Option String → Except ServiceError (Option String)
  | none => .ok none
  | some phone =>
    let phone := Text.trim phone
    if phone.isEmpty then .ok none
    else if isPhone phone then .ok (some phone)
    else .error (.validation ("phone must be exactly 10 digits: " ++ phone))

/-- There is a live user with the address already. -/
def emailTaken : ServiceError := .conflict "a user with this email already exists"

/-- What is written of a user who logs in for the first time. -/
def newcomer (email : String) : NewUser :=
  { name := displayName email, email, phone := none, userType := .fullTime, role := .employee }

/-- Registers a user who logs in for the first time. Where someone else has just inserted the address, the user is
looked up again. -/
def provision (email : String) : Operation User :=
  ExceptT.mk do
    match ← settle (insert (newcomer email)) with
    | .committed user => pure (.ok user)
    | .withdrawn (.conflict _) => (do
        match ← stored (lookUpByEmail email) with
        | some user => pure user
        | none => throw emailTaken : Operation User)
    | .withdrawn e => pure (.error (.ofStore e))
    | .refused e => pure (.error (.ofStore e))

/-- The live user with an address, who is registered if need be. -/
def findOrProvision (email : String) : Operation User := do
  match ← stored (lookUpByEmail email) with
  | some user => pure user
  | none => provision email

def login (desk : Desk) (req : Login) : Operation LoginResponse := do
  let email ← Exchange.ofExcept (authorized (desk.policy.validate req.email))
  let user ← findOrProvision email
  let held ← stored (roles user.id)
  Exchange.ofExcept do
    let role ← pickRole held req.role
    let accessToken ← authorized (desk.issuer.issueAccess desk.now user.id role)
    let refreshToken ← authorized (desk.issuer.issueRefresh desk.now user.id)
    pure { accessToken, refreshToken := some refreshToken, role, user := some user }

/-- The user and the role of a pair of tokens that belong together. -/
def checkPair (desk : Desk) (req : Refresh) : Except ServiceError (Uuid × Role) := do
  let refresh ← authorized (desk.issuer.verifyRefresh desk.now req.refreshToken)
  let access ← authorized (desk.issuer.decodeExpiredAccess req.accessToken)
  require (refresh.userId = access.userId) (.unauthorized "token pair does not belong to one user")
  pure (refresh.userId, access.role)

/-- Renews an access token for a user who still holds its role. -/
def refresh (desk : Desk) (req : Refresh) : Operation LoginResponse := do
  let (userId, role) ← Exchange.ofExcept (checkPair desk req)
  if (← stored (lookUp userId)).isNone then throw (.unauthorized "user no longer exists")
  let held ← stored (roles userId)
  Exchange.ofExcept do
    require (held.contains role) (.forbidden ("user no longer holds role " ++ label role))
    let accessToken ← authorized (desk.issuer.issueAccess desk.now userId role)
    pure { accessToken, refreshToken := none, role, user := none }

/-- What is written of a new user; the first objection to the request counts. -/
def checkCreate (desk : Desk) (actor : Actor) (req : CreateUser) : Except ServiceError NewUser := do
  if let some bar := actor.role.creationBar? req.role then throw (.forbidden bar)
  let name := Text.trim req.name
  require (!name.isEmpty) (.validation "name is required")
  let email ← authorized (desk.policy.validate req.email)
  let phone ← normalizePhone req.phone
  pure { name, email, phone, userType := req.userType, role := req.role }

def enrol (user : NewUser) : Operation User := do
  if (← stored (lookUpByEmail user.email)).isSome then throw emailTaken
  stored (insert user)

/-- Registers a user on behalf of someone who may. -/
def create (desk : Desk) (actor : Actor) (req : CreateUser) : Operation User := do
  let user ← Exchange.ofExcept (checkCreate desk actor req)
  transaction .ofStore (enrol user)

def checkUpdate (desk : Desk) (patch : UserPatch) : Except ServiceError UserPatch := do
  let name := patch.name.map Text.trim
  require (name.all (!·.isEmpty)) (.validation "name cannot be empty")
  let email ← patch.email.mapM fun email => authorized (desk.policy.validate email)
  let phone ← normalizePhone patch.phone
  pure { patch with name, email, phone }

def change (actor : Actor) (id : Uuid) (patch : UserPatch) : Operation User := do
  match ← stored (write id patch actor.userId) with
  | some user => pure user
  | none => throw (userNotFound id)

def update (desk : Desk) (actor : Actor) (id : Uuid) (patch : UserPatch) : Operation User := do
  let patch ← Exchange.ofExcept (checkUpdate desk patch)
  transaction .ofStore (change actor id patch)

/-- Locks the user, then archives the user unless assets are held. -/
def dismiss (actor : Actor) (id : Uuid) : Operation Unit := do
  if !(← stored (lock id true)) then throw (userNotFound id)
  let held ← stored (Ledger.countAssignments id)
  if 0 < held then
    throw (.invalidState
      ("user still has " ++ Text.ofInt held.toInt ++ " assigned asset(s); retrieve them first"))
  let _ ← stored (stampArchived id actor.userId)
  pure ()

def delete (actor : Actor) (id : Uuid) : Operation Unit := do
  Exchange.ofExcept (require (id ≠ actor.userId) (.forbidden "users cannot delete themselves"))
  transaction .ofStore (dismiss actor id)

/-- A window of the live users that a filter wants. -/
def list (filter : UserFilter) (page : Query.Page) : Operation (List UserSummary) := stored (fetchList filter page)

def details (id : Uuid) : Operation UserDetails := do
  match ← stored (summary id) with
  | none => throw (userNotFound id)
  | some user =>
    let assets ← stored (heldAssets id)
    pure { user, assets }

def timeline (id : Uuid) : Operation (List UserEvent) := stored (Ledger.userTimeline id)

def activeAssignments (id : Uuid) : Operation Int64 := stored (Ledger.countAssignments id)

end AssetRegistry.Users
