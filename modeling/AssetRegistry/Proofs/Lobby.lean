import AssetRegistry.Proofs.Faults
import AssetRegistry.Proofs.Tables
import Mathlib.Logic.Function.Basic

namespace AssetRegistry.Store

/-- The rows of the tables of users and of roles. -/
structure Directory where
  users : List User := []
  roles : List (Uuid × Role) := []
  deriving DecidableEq

/-- The identifier and the time of a row that a connection adds, and how a violation is worded. -/
structure Entrant where
  id : Uuid
  now : Instant
  message : String
  constraint : Option String

/-- The user that the store makes of what is inserted. -/
def Entrant.user (new : Entrant) (u : NewUser) : User where
  id := new.id
  name := u.name
  email := u.email
  phone := u.phone
  userType := u.userType
  createdAt := new.now
  updatedAt := none
  updatedBy := none
  archivedAt := none

/-- The fault of the unique index. -/
def Entrant.violation (new : Entrant) : Fault where
  code := uniqueViolation
  message := new.message
  constraint := new.constraint

/-- The columns of a user. -/
def userRow (u : User) : Row :=
  [("id", .uuid u.id), ("name", .text u.name), ("email", .text u.email), ("phone", .ofOption .text u.phone),
   ("user_type", .ofLabel u.userType), ("created_at", .instant u.createdAt),
   ("updated_at", .ofOption .instant u.updatedAt), ("updated_by", .ofOption .uuid u.updatedBy),
   ("archived_at", .ofOption .instant u.archivedAt)]

def roleRow (role : Role) : Row := [("role", .ofLabel role)]

theorem label_userType (type : UserType) : Reader.label (.ofLabel type) = .ok type := by cases type <;> rfl

theorem option_text (text : Option String) : Reader.option Reader.text (.ofOption .text text) = .ok text := by
  cases text <;> rfl

theorem ofRow_userRow (u : User) : User.ofRow (userRow u) = .ok u := by
  simp only [User.ofRow, userRow]
  simp [Tables.get_head, Tables.get_tail, label_userType, option_text, Tables.option_uuid, Tables.option_instant]
  rfl

namespace Directory

instance : Append Directory := ⟨fun d d' => { users := d.users ++ d'.users, roles := d.roles ++ d'.roles }⟩

variable (lower : String → String)

/-- The live users with an address, as the index compares addresses. -/
def withAddress (d : Directory) (email : String) : List User :=
  d.users.filter fun u => u.archivedAt.isNone && lower u.email = lower email

/-- The roles that a user has, in the order of the vocabulary. -/
def rolesOf (d : Directory) (id : Uuid) : List Role := Vocabulary.all.filter fun role => (id, role) ∈ d.roles

/-- What a statement is answered on given tables. -/
def answer (d : Directory) (new : Entrant) : Statement → Reply
  | .findUserByEmail email => .rows ((d.withAddress lower email).map userRow)
  | .insertUser u => if d.withAddress lower u.email = [] then .rows [userRow (new.user u)] else .failed new.violation
  | .addRole id role => .affected (if (id, role) ∈ d.roles then 0 else 1)
  | .rolesOf id => .rows ((d.rolesOf id).map roleRow)
  | _ => .affected 0

/-- The rows that a statement adds. -/
def written (d : Directory) (new : Entrant) : Statement → Directory
  | .insertUser u => if d.withAddress lower u.email = [] then { users := [new.user u] } else {}
  | .addRole id role => if (id, role) ∈ d.roles then {} else { roles := [(id, role)] }
  | _ => {}

/-- An employee's rows. -/
def ofUser (user : User) : Directory := { users := [user], roles := [(user.id, .employee)] }

theorem append_none (d : Directory) : d ++ {} = d :=
  congr (congrArg Directory.mk (List.append_nil d.users)) (List.append_nil d.roles)

theorem withAddress_append (d d' : Directory) (email : String) :
    (d ++ d').withAddress lower email = d.withAddress lower email ++ d'.withAddress lower email :=
  List.filter_append ..

end Directory

/-- The store, the rows that the open transactions have added, and what is still to be sent on each connection. -/
structure Lobby (n : Nat) where
  committed : Directory
  opened : Fin n → Option Directory
  programs : Fin n → Dialogue (Except ServiceError Users.LoginResponse)

namespace Lobby
variable {n : Nat} (lower : String → String) (new : Fin n → Entrant)

/-- The committed rows, and those that the connection's own transaction has added. -/
def view (s : Lobby n) (i : Fin n) : Directory := s.committed ++ (s.opened i).getD {}

/-- An insertion waits while another transaction that has inserted the address is open. -/
def Waits (s : Lobby n) (i : Fin n) : Message → Prop
  | .statement (.insertUser u) => ∃ j own, j ≠ i ∧ s.opened j = some own ∧ own.withAddress lower u.email ≠ []
  | _ => False

/-- What a connection is answered, in view of its own transaction. -/
def reply (s : Lobby n) (i : Fin n) : Message → Reply
  | .statement q => (s.view i).answer lower (new i) q
  | _ => .affected 0

/-- What a message leaves on the connection: the committed rows, and those of its transaction. Outside of a transaction
each statement is committed at once. -/
def effect (s : Lobby n) (i : Fin n) : Message → Directory × Option Directory
  | .begin => (s.committed, some {})
  | .commit => (s.view i, none)
  | .rollback => (s.committed, none)
  | .statement q =>
    match s.opened i with
    | some own => (s.committed, some (own ++ (s.view i).written lower (new i) q))
    | none => (s.committed ++ (s.view i).written lower (new i) q, none)

/-- The rows after a message of one connection, and what is to be sent on it now. -/
def put (s : Lobby n) (i : Fin n) (rows : Directory × Option Directory)
    (program : Dialogue (Except ServiceError Users.LoginResponse)) : Lobby n where
  committed := rows.1
  opened := Function.update s.opened i rows.2
  programs := Function.update s.programs i program

theorem put_opened (s : Lobby n) (i : Fin n) (rows : Directory × Option Directory)
    (program : Dialogue (Except ServiceError Users.LoginResponse)) (j : Fin n) :
    (s.put i rows program).opened j = if j = i then rows.2 else s.opened j := Function.update_apply _ _ _ _

theorem put_programs (s : Lobby n) (i : Fin n) (rows : Directory × Option Directory)
    (program : Dialogue (Except ServiceError Users.LoginResponse)) (j : Fin n) :
    (s.put i rows program).programs j = if j = i then program else s.programs j := Function.update_apply _ _ _ _

/-- Some connection sends its next message, which is carried out unless it waits. -/
inductive Step : Lobby n → Lobby n → Prop
  | exchange {s : Lobby n} (i : Fin n) {m : Message} {next : Reply → Dialogue (Except ServiceError Users.LoginResponse)} :
      s.programs i = .send m next → ¬s.Waits lower i m →
      Step s (s.put i (s.effect lower new i m) (next (s.reply lower new i m)))

/-- Steps in any order, and how many. -/
inductive Steps (start : Lobby n) : Nat → Lobby n → Prop
  | none : Steps start 0 start
  | more {k : Nat} {s s' : Lobby n} : Steps start k s → Step lower new s s' → Steps start (k + 1) s'

end Lobby
end AssetRegistry.Store

namespace AssetRegistry.Users
open Store Service Exchange

/-- How far a log-in has come that is, from some point on, about a user. -/
inductive Place where
  | arriving
  | opening
  | adding
  | granting (user : User)
  | closing (user : User)
  | undoing
  | returning
  | signing (user : User)
  | settled (user : User)

namespace Place

/-- The rows that the transaction open at a place has added. -/
def own : Place → Option Directory
  | adding | undoing => some {}
  | granting user => some { users := [user] }
  | closing user => some (.ofUser user)
  | arriving | opening | returning | signing _ | settled _ => none

/-- Nothing tells here that the user has been inserted. -/
def early : Place → Bool
  | arriving | opening | adding => true
  | granting _ | closing _ | undoing | returning | signing _ | settled _ => false

/-- The most messages that are still to be sent. -/
def rank : Place → Nat
  | arriving => 6
  | opening => 5
  | adding => 4
  | granting _ | undoing => 3
  | closing _ | returning => 2
  | signing _ => 1
  | settled _ => 0

/-- What is sent at a place; at the last one nothing is. -/
def message? (email : String) : Place → Option Message
  | arriving | returning => some (.statement (.findUserByEmail email))
  | opening => some .begin
  | adding => some (.statement (.insertUser (newcomer email)))
  | granting user => some (.statement (.addRole user.id .employee))
  | closing _ => some .commit
  | undoing => some .rollback
  | signing user => some (.statement (.rolesOf user.id))
  | settled _ => none

end Place

/-- Where the replies of the store lead. -/
inductive Goes : Place → Reply → Place → Prop
  | unknown : Goes .arriving (.rows []) .opening
  | known {user : User} : Goes .arriving (.rows [userRow user]) (.signing user)
  | begun : Goes .opening (.affected 0) .adding
  | added {user : User} : Goes .adding (.rows [userRow user]) (.granting user)
  | taken {fault : Fault} : fault.code = uniqueViolation → Goes .adding (.failed fault) .undoing
  | granted {user : User} {count : Nat} : Goes (.granting user) (.affected count) (.closing user)
  | committed {user : User} : Goes (.closing user) (.affected 0) (.signing user)
  | undone : Goes .undoing (.affected 0) .returning
  | found {user : User} : Goes .returning (.rows [userRow user]) (.signing user)
  | told {user : User} : Goes (.signing user) (.rows [roleRow .employee]) (.settled user)

/-- Every message brings a log-in nearer to its end. -/
theorem Goes.rank {place place' : Place} {reply : Reply} (goes : Goes place reply place') : place'.rank < place.rank := by
  cases goes <;> simp [Place.rank]

/-- A peer that answers as the store does to those who log in at the same time. -/
def concierge (email : String) : Peer Place where
  accepts place m := place.message? email = some m
  answers place _ := Goes place

/-- The tokens that the desk issues now expire at times that the calendar holds. -/
def Desk.Issues (desk : Desk) : Prop :=
  (desk.now.addSeconds? desk.issuer.accessLifetime).isSome ∧ (desk.now.addSeconds? desk.issuer.refreshLifetime).isSome

/-- The log-in has returned the user and the role of an employee, provided that tokens can be issued. -/
def AsEmployee (desk : Desk) (user : User) (result : Except ServiceError LoginResponse) : Prop :=
  desk.Issues → ∃ response, result = .ok response ∧ response.role = .employee ∧ response.user = some user

theorem pickRole_employee {wanted : Option Role} (asks : wanted = none ∨ wanted = some .employee) :
    pickRole [.employee] wanted = .ok .employee := by
  rcases asks with rfl | rfl <;> rfl

theorem asEmployee_of_issued (desk : Desk) (user : User) {wanted : Option Role}
    (asks : wanted = none ∨ wanted = some .employee) :
    AsEmployee desk user (do
      let role ← pickRole [.employee] wanted
      let accessToken ← authorized (desk.issuer.issueAccess desk.now user.id role)
      let refreshToken ← authorized (desk.issuer.issueRefresh desk.now user.id)
      pure { accessToken, refreshToken := some refreshToken, role, user := some user }) := by
  rintro ⟨access, refresh⟩
  obtain ⟨expires, isAccess⟩ := Option.isSome_iff_exists.1 access
  obtain ⟨expires', isRefresh⟩ := Option.isSome_iff_exists.1 refresh
  rw [pickRole_employee asks]
  simp only [Issuer.issueAccess, Issuer.issueRefresh, Issuer.expiry, isAccess, isRefresh]
  exact ⟨_, rfl, rfl, rfl⟩

/-- What a log-in ensures from a place on. -/
abbrev Leads (desk : Desk) (email : String) (x : Operation LoginResponse) (place : Place) : Prop :=
  x.Ensures (concierge email) place (fun response last => ∃ user, last = .settled user ∧ AsEmployee desk user (.ok response))
    fun e last => ∃ user, last = .settled user ∧ AsEmployee desk user (.error e)

theorem signIn_leads {desk : Desk} {req : Login} (asks : req.role = none ∨ req.role = some .employee) (email : String)
    (user : User) : Leads desk email (signIn desk req user) (.signing user) := by
  unfold Leads signIn roles fetchAll
  simp only [ensures_bind, ensures_stored, rowsOf_eq_single, ensures_single, ensures_ofExcept]
  refine ⟨rfl, ?_⟩
  rintro _ _ ⟨⟩
  have held : List.mapM (Row.scalar .label) [roleRow .employee] = .ok [Role.employee] := rfl
  refine ⟨?_, by rintro _ ⟨⟩⟩
  rintro _ ⟨⟩
  rw [held]
  refine ⟨?_, by rintro _ ⟨⟩⟩
  rintro _ ⟨⟩
  have issued := asEmployee_of_issued desk user asks
  exact ⟨fun a same => ⟨user, rfl, same ▸ issued⟩, fun e same => ⟨user, rfl, same ▸ issued⟩⟩

/-- What a look-up leads to that finds the user. -/
theorem first?_userRow (user : User) :
    (Reply.first? User.ofRow (.rows [userRow user])).mapError ServiceError.ofStore = .ok (some user) := by
  rw [Reply.first?, ofRow_userRow]
  rfl

/-- The second look is followed by signing in. -/
theorem lookAgain_leads {desk : Desk} {req : Login} (asks : req.role = none ∨ req.role = some .employee) (email : String) :
    Leads desk email (lookAgain email >>= signIn desk req) .returning := by
  unfold Leads lookAgain
  rw [stored_lookUpByEmail, ensures_bind, ensures_bind, ensures_single]
  refine ⟨rfl, ?_⟩
  rintro _ _ ⟨⟩
  rw [first?_userRow]
  refine ⟨?_, by rintro _ ⟨⟩⟩
  rintro _ ⟨⟩
  exact signIn_leads asks email _

/-- An insertion ends with the user ready to commit, or with a conflict that is to be undone. -/
theorem insert_goes (email : String) :
    (insert (newcomer email)).Ensures (concierge email) .adding (fun user place => place = .closing user)
      fun e place => (∃ constraint, e = .conflict constraint) ∧ place = .undoing := by
  unfold insert addRole
  simp only [fetchOne_eq_single, execute_eq_single, ensures_bind, ensures_single, ensures_pure]
  refine ⟨rfl, ?_⟩
  rintro _ _ (_ | _ | _ | _ | taken)
  · rw [Reply.first, ofRow_userRow]
    refine ⟨?_, by rintro _ ⟨⟩⟩
    rintro user ⟨⟩
    refine ⟨rfl, ?_⟩
    rintro _ _ ⟨⟩
    exact ⟨fun _ _ => rfl, by rintro _ ⟨⟩⟩
  · refine ⟨by rintro _ ⟨⟩, ?_⟩
    rintro e ⟨⟩
    exact ⟨⟨_, if_pos taken⟩, rfl⟩

/-- A newcomer goes through the places of the transaction, and signs in behind it. -/
theorem provision_leads {desk : Desk} {req : Login} (asks : req.role = none ∨ req.role = some .employee) (email : String) :
    Leads desk email (provision email >>= signIn desk req) .opening := by
  rw [Leads, ensures_bind, provision_eq]
  refine Dialogue.ensures_bind.2 (Dialogue.ensures_settle.2 ⟨rfl, ?_⟩)
  rintro _ _ ⟨⟩
  refine ⟨by rintro _ ⟨⟩, fun _ => Dialogue.Ensures.mono (insert_goes email) ?_⟩
  rintro (e | user) place ended
  · obtain ⟨⟨constraint, rfl⟩, rfl⟩ := ended
    refine ⟨rfl, ?_⟩
    rintro _ _ ⟨⟩
    exact ensures_bind.1 (lookAgain_leads asks email)
  · obtain rfl := ended
    refine ⟨rfl, ?_⟩
    rintro _ _ ⟨⟩
    exact ⟨by rintro _ ⟨⟩, fun _ => signIn_leads asks email user⟩

-- Otherwise the address is checked wherever a goal is compared with what a log-in ensures.
attribute [local irreducible] login

/-- A log-in goes through the places, and ends at the last one. -/
theorem login_leads {desk : Desk} {req : Login} {email : String} (validated : desk.policy.validate req.email = .ok email)
    (asks : req.role = none ∨ req.role = some .employee) : Leads desk email (login desk req) .arriving := by
  rw [Leads, login_of_valid validated]
  unfold findOrProvision
  rw [stored_lookUpByEmail, ensures_bind, ensures_bind, ensures_single]
  refine ⟨rfl, ?_⟩
  rintro _ _ (_ | _)
  · refine ⟨?_, by rintro _ ⟨⟩⟩
    rintro _ ⟨⟩
    exact ensures_bind.1 (provision_leads asks email)
  · rw [first?_userRow]
    refine ⟨?_, by rintro _ ⟨⟩⟩
    rintro _ ⟨⟩
    exact signIn_leads asks email _

end AssetRegistry.Users
