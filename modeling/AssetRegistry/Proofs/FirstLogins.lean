import AssetRegistry.Proofs.Lobby
import Mathlib.Algebra.BigOperators.Fin
import Mathlib.Algebra.Order.BigOperators.Group.Finset

namespace AssetRegistry.Store
open Users Service

/-- How far all log-ins together have come: nobody has inserted the user, one of them has but has not committed it, or all
may see the user. -/
inductive Stage (n : Nat) where
  | unclaimed
  | claimed (i : Fin n) (user : User)
  | shared (user : User)

namespace Stage
variable {n : Nat}

/-- What is committed: nothing new until one newcomer is shared. -/
def committed (initial : Directory) : Stage n → Directory
  | unclaimed | claimed _ _ => initial
  | shared user => initial ++ .ofUser user

/-- The users whom a look-up finds. -/
def seen : Stage n → List User
  | unclaimed | claimed _ _ => []
  | shared user => [user]

/-- The places at which a connection may be. -/
inductive Allows : Stage n → Fin n → Place → Prop
  | early {stage : Stage n} {i : Fin n} {place : Place} : place.early → (∀ user, stage ≠ claimed i user) →
      Allows stage i place
  | granting {i : Fin n} {user : User} : Allows (claimed i user) i (.granting user)
  | closing {i : Fin n} {user : User} : Allows (claimed i user) i (.closing user)
  | undoing {i : Fin n} {user : User} : Allows (shared user) i .undoing
  | returning {i : Fin n} {user : User} : Allows (shared user) i .returning
  | signing {i : Fin n} {user : User} : Allows (shared user) i (.signing user)
  | settled {i : Fin n} {user : User} : Allows (shared user) i (.settled user)

/-- Whoever has inserted the user has an open transaction. -/
theorem Allows.inserted {i : Fin n} {user : User} {place : Place} (allowed : Allows (claimed i user) i place) :
    ∃ own, place.own = some own ∧ own.users = [user] := by
  cases allowed with
  | early _ free => exact absurd rfl (free user)
  | granting => exact ⟨_, rfl, rfl⟩
  | closing => exact ⟨_, rfl, rfl⟩

/-- The others have not got past their insertions. -/
theorem Allows.before {i j : Fin n} {user : User} {place : Place} (allowed : Allows (claimed i user) j place)
    (other : j ≠ i) : place.early := by
  cases allowed with
  | early before _ => exact before
  | granting => exact absurd rfl other
  | closing => exact absurd rfl other

end Stage

/-- Some calls log in with one address, for no role or as employees. No live user has the address at first, and the
identifiers of new users are not in use. -/
structure FirstLogins {n : Nat} (lower : String → String) (new : Fin n → Entrant) (initial : Directory) (email : String)
    (desk : Fin n → Desk) (req : Fin n → Login) : Prop where
  validated : ∀ i, (desk i).policy.validate (req i).email = .ok email
  asks : ∀ i, (req i).role = none ∨ (req i).role = some .employee
  unknown : initial.withAddress lower email = []
  unused : ∀ i role, ((new i).id, role) ∉ initial.roles

namespace Lobby
variable {n : Nat} {lower : String → String} {new : Fin n → Entrant} {initial : Directory} {email : String}
  {desk : Fin n → Desk} {req : Fin n → Login}

/-- All log-ins are about to begin. -/
def start (initial : Directory) (desk : Fin n → Desk) (req : Fin n → Login) : Lobby n where
  committed := initial
  opened _ := none
  programs i := (login (desk i) (req i)).run

/-- The user may be the one who is registered for the address. -/
structure Suits (initial : Directory) (email : String) (user : User) : Prop where
  address : user.email = email
  live : user.archivedAt = none
  unused : ∀ role, (user.id, role) ∉ initial.roles

/-- Every connection is at a place that the stage allows, and its transaction has added the rows that belong there. -/
structure Sound (initial : Directory) (email : String) (desk : Fin n → Desk) (s : Lobby n) (stage : Stage n)
    (place : Fin n → Place) : Prop where
  committed : s.committed = stage.committed initial
  opened : ∀ i, s.opened i = (place i).own
  allowed : ∀ i, stage.Allows i (place i)
  suits : ∀ user, (∃ i, stage = .claimed i user) ∨ stage = .shared user → Suits initial email user
  leads : ∀ i, (s.programs i).Ensures (concierge email) (place i) fun result last =>
    ∃ user, last = .settled user ∧ AsEmployee (desk i) user result

-- Otherwise the address is checked wherever a goal is compared with what a log-in ensures.
attribute [local irreducible] login

theorem Suits.withAddress {user : User} (suits : Suits initial email user) {d : Directory} (alone : d.users = [user]) :
    d.withAddress lower email = [user] := by
  rw [Directory.withAddress, alone]
  simp [suits.address, suits.live]

theorem Suits.roles {user : User} (suits : Suits initial email user) :
    (initial ++ .ofUser user).rolesOf user.id = [.employee] := by
  have held (role : Role) : (user.id, role) ∈ (initial ++ .ofUser user).roles ↔ role = .employee := by
    refine List.mem_append.trans ⟨?_, ?_⟩
    · rintro (before | added)
      · exact absurd before (suits.unused role)
      · exact (Prod.mk.inj (List.mem_singleton.1 added)).2
    · rintro rfl
      exact Or.inr (List.mem_singleton_self _)
  simp only [Directory.rolesOf, held]
  rfl

namespace Sound
variable {s : Lobby n} {stage : Stage n} {place : Fin n → Place} {i : Fin n} {m : Message}
  {next : Reply → Dialogue (Except ServiceError LoginResponse)}

theorem start (first : FirstLogins lower new initial email desk req) :
    Sound initial email desk (Lobby.start initial desk req) .unclaimed fun _ => .arriving where
  committed := rfl
  opened _ := rfl
  allowed _ := .early rfl (by simp)
  suits := by simp
  leads i := by
    refine Dialogue.Ensures.mono (login_leads (first.validated i) (first.asks i)) ?_
    rintro (e | response) last ended <;> exact ended

theorem message (sound : Sound initial email desk s stage place) (sends : s.programs i = .send m next) :
    (place i).message? email = some m := by
  have leads := sound.leads i
  rw [sends] at leads
  exact leads.1

/-- It is enough to look at the connection that has sent a message. -/
theorem moves (sound : Sound initial email desk s stage place) (sends : s.programs i = .send m next) {stage' : Stage n}
    {place' : Place} (goes : Goes (place i) (s.reply lower new i m) place')
    (kept : s.effect lower new i m = (stage'.committed initial, place'.own)) (allowed : stage'.Allows i place')
    (others : ∀ j, j ≠ i → stage'.Allows j (place j))
    (suits : ∀ user, (∃ i, stage' = .claimed i user) ∨ stage' = .shared user → Suits initial email user) :
    Sound initial email desk (s.put i (s.effect lower new i m) (next (s.reply lower new i m))) stage'
      (Function.update place i place') where
  committed := by rw [put, kept]
  opened j := by
    rw [put_opened, Function.update_apply, kept]
    split
    · rfl
    · exact sound.opened j
  allowed j := by
    rw [Function.update_apply]
    split
    · next here =>
      rw [here]
      exact allowed
    · next elsewhere => exact others j elsewhere
  suits := suits
  leads j := by
    rw [put_programs, Function.update_apply]
    split
    · next here =>
      have leads := sound.leads i
      rw [sends] at leads
      rw [here]
      exact leads.2 _ place' goes
    · exact sound.leads j

/-- The connection goes on, to a place with fewer messages ahead. -/
def Advances (lower : String → String) (new : Fin n → Entrant) (initial : Directory) (email : String)
    (desk : Fin n → Desk) (s : Lobby n) (place : Fin n → Place) (i : Fin n) (m : Message)
    (next : Reply → Dialogue (Except ServiceError LoginResponse)) : Prop :=
  ∃ (stage' : Stage n) (place' : Place), place'.rank < (place i).rank ∧
    Sound initial email desk (s.put i (s.effect lower new i m) (next (s.reply lower new i m))) stage'
      (Function.update place i place')

/-- A log-in takes a step that leaves the stage as it is. -/
theorem stays (sound : Sound initial email desk s stage place) (sends : s.programs i = .send m next) (place' : Place)
    (goes : Goes (place i) (s.reply lower new i m) place')
    (kept : s.effect lower new i m = (stage.committed initial, place'.own)) (allowed : stage.Allows i place') :
    Advances lower new initial email desk s place i m next :=
  ⟨stage, place', goes.rank, sound.moves sends goes kept allowed (fun j _ => sound.allowed j) sound.suits⟩

theorem seen_committed (first : FirstLogins lower new initial email desk req)
    (sound : Sound initial email desk s stage place) : (stage.committed initial).withAddress lower email = stage.seen := by
  cases stage with
  | unclaimed => exact first.unknown
  | claimed j user => exact first.unknown
  | shared user =>
    rw [Stage.committed, Directory.withAddress_append, first.unknown, (sound.suits user (Or.inr rfl)).withAddress rfl]
    rfl

/-- A connection that has added nothing sees what is committed. -/
theorem view_committed (sound : Sound initial email desk s stage place) (nothing : (place i).own.getD {} = {}) :
    s.view i = stage.committed initial := by
  rw [view, sound.opened, nothing, sound.committed]
  exact Directory.append_none _

/-- Outside of a transaction, what is committed is looked at. -/
theorem looks (first : FirstLogins lower new initial email desk req) (sound : Sound initial email desk s stage place)
    (outside : (place i).own = none) :
    s.reply lower new i (.statement (.findUserByEmail email)) = .rows (stage.seen.map userRow) ∧
      s.effect lower new i (.statement (.findUserByEmail email)) = (stage.committed initial, none) := by
  have closed : s.opened i = none := (sound.opened i).trans outside
  have view : s.view i = stage.committed initial := sound.view_committed (by rw [outside]; rfl)
  refine ⟨?_, ?_⟩
  · rw [reply, view, Directory.answer, sound.seen_committed first]
  · simp only [effect, closed, Directory.written, Directory.append_none, sound.committed]

/-- A look-up finds the user once all may see the user, and nobody before. -/
theorem arrives (first : FirstLogins lower new initial email desk req) (sound : Sound initial email desk s stage place)
    (sends : s.programs i = .send (.statement (.findUserByEmail email)) next) (here : place i = .arriving) :
    Advances lower new initial email desk s place i (.statement (.findUserByEmail email)) next := by
  have allowed : stage.Allows i .arriving := here ▸ sound.allowed i
  obtain ⟨told, kept⟩ := sound.looks first (i := i) (by rw [here]; rfl)
  cases allowed with
  | early _ unclaimed =>
    cases stage with
    | shared user => exact sound.stays sends (.signing user) (by rw [told, here]; exact .known) kept .signing
    | unclaimed => exact sound.stays sends .opening (by rw [told, here]; exact .unknown) kept (.early rfl unclaimed)
    | claimed j user => exact sound.stays sends .opening (by rw [told, here]; exact .unknown) kept (.early rfl unclaimed)

theorem begins (sound : Sound initial email desk s stage place) (sends : s.programs i = .send .begin next)
    (here : place i = .opening) : Advances lower new initial email desk s place i .begin next := by
  have allowed : stage.Allows i .opening := here ▸ sound.allowed i
  cases allowed with
  | early _ unclaimed =>
    refine sound.stays sends .adding (by rw [here]; exact .begun) ?_ (.early rfl unclaimed)
    rw [effect, sound.committed]
    rfl

/-- With nobody committed under the address the insertion is taken. -/
theorem inserts (first : FirstLogins lower new initial email desk req) (sound : Sound initial email desk s stage place)
    (inside : (place i).own = some {}) (nobody : stage.seen = []) :
    s.reply lower new i (.statement (.insertUser (newcomer email))) = .rows [userRow ((new i).user (newcomer email))] ∧
      s.effect lower new i (.statement (.insertUser (newcomer email))) =
        (stage.committed initial, some { users := [(new i).user (newcomer email)] }) := by
  have view : s.view i = stage.committed initial := sound.view_committed (by rw [inside]; rfl)
  have free : (s.view i).withAddress lower (newcomer email).email = [] := by
    rw [view]
    exact (sound.seen_committed first).trans nobody
  refine ⟨if_pos free, ?_⟩
  simp only [effect, sound.opened i, inside, Directory.written]
  rw [if_pos free, sound.committed]
  rfl

/-- With somebody committed under the address the unique index refuses the insertion. -/
theorem refused (first : FirstLogins lower new initial email desk req) (sound : Sound initial email desk s stage place)
    (inside : (place i).own = some {}) (somebody : stage.seen ≠ []) :
    s.reply lower new i (.statement (.insertUser (newcomer email))) = .failed (new i).violation ∧
      s.effect lower new i (.statement (.insertUser (newcomer email))) = (stage.committed initial, some {}) := by
  have view : s.view i = stage.committed initial := sound.view_committed (by rw [inside]; rfl)
  have taken : (s.view i).withAddress lower (newcomer email).email ≠ [] := by
    rw [view]
    exact fun free => somebody ((sound.seen_committed first).symm.trans free)
  refine ⟨if_neg taken, ?_⟩
  simp only [effect, sound.opened i, inside, Directory.written]
  rw [if_neg taken, sound.committed]
  rfl

/-- An insertion adds the user if nobody has, waits while someone else's is not committed, and is refused then. -/
theorem adds (first : FirstLogins lower new initial email desk req) (sound : Sound initial email desk s stage place)
    (sends : s.programs i = .send (.statement (.insertUser (newcomer email))) next)
    (free : ¬s.Waits lower i (.statement (.insertUser (newcomer email)))) (here : place i = .adding) :
    Advances lower new initial email desk s place i (.statement (.insertUser (newcomer email))) next := by
  have allowed : stage.Allows i .adding := here ▸ sound.allowed i
  have inside : (place i).own = some {} := by
    rw [here]
    rfl
  cases allowed with
  | early _ unclaimed =>
    cases stage with
    | unclaimed =>
      obtain ⟨told, kept⟩ := sound.inserts first inside rfl
      have goes : Goes (place i) (s.reply lower new i (.statement (.insertUser (newcomer email))))
          (.granting ((new i).user (newcomer email))) := by
        rw [told, here]
        exact .added
      refine ⟨.claimed i _, _, goes.rank, sound.moves sends goes kept .granting (fun j other => ?_) ?_⟩
      · cases sound.allowed j with
        | early before _ => exact .early before fun user same => other (Stage.claimed.inj same).1.symm
      · rintro user (⟨j, same⟩ | same)
        · obtain ⟨-, rfl⟩ := Stage.claimed.inj same
          exact ⟨rfl, rfl, first.unused i⟩
        · cases same
    | claimed j user =>
      obtain ⟨own, held, alone⟩ := (sound.allowed j).inserted
      have known : own.withAddress lower email = [user] := (sound.suits user (Or.inl ⟨j, rfl⟩)).withAddress alone
      refine absurd ⟨j, own, fun same => unclaimed user (by rw [same]), (sound.opened j).trans held, ?_⟩ free
      exact fun nobody => List.cons_ne_nil _ _ (known.symm.trans nobody)
    | shared user =>
      obtain ⟨told, kept⟩ := sound.refused first inside (List.cons_ne_nil _ _)
      exact sound.stays sends .undoing (by rw [told, here]; exact .taken rfl) kept .undoing

theorem grants (sound : Sound initial email desk s stage place) {user : User}
    (sends : s.programs i = .send (.statement (.addRole user.id .employee)) next) (here : place i = .granting user) :
    Advances lower new initial email desk s place i (.statement (.addRole user.id .employee)) next := by
  have allowed : stage.Allows i (.granting user) := here ▸ sound.allowed i
  have inside : s.opened i = some { users := [user] } := (sound.opened i).trans (by rw [here]; rfl)
  cases allowed with
  | early late _ => cases late
  | granting =>
    have roles : (s.view i).roles = initial.roles := by
      rw [view, inside, sound.committed]
      exact List.append_nil _
    have fresh : (user.id, Role.employee) ∉ (s.view i).roles := by
      rw [roles]
      exact (sound.suits user (Or.inl ⟨i, rfl⟩)).unused _
    refine sound.stays sends (.closing user) ?_ ?_ .closing
    · rw [here]
      exact .granted
    · simp only [effect, inside, Directory.written]
      rw [if_neg fresh, sound.committed]
      rfl

/-- All see the user as soon as the transaction is committed. -/
theorem closes (sound : Sound initial email desk s stage place) {user : User}
    (sends : s.programs i = .send .commit next) (here : place i = .closing user) :
    Advances lower new initial email desk s place i .commit next := by
  have allowed : stage.Allows i (.closing user) := here ▸ sound.allowed i
  have inside : s.opened i = some (.ofUser user) := (sound.opened i).trans (by rw [here]; rfl)
  cases allowed with
  | early late _ => cases late
  | closing =>
    have goes : Goes (place i) (s.reply lower new i .commit) (.signing user) := by
      rw [here]
      exact .committed
    have kept : s.effect lower new i .commit = (Stage.committed initial (.shared user : Stage n), none) := by
      rw [effect, view, inside, sound.committed]
      rfl
    refine ⟨_, _, goes.rank, sound.moves sends goes kept .signing (fun j other => ?_) ?_⟩
    · exact .early ((sound.allowed j).before other) nofun
    · rintro user' (⟨j, same⟩ | same)
      · cases same
      · obtain rfl := Stage.shared.inj same
        exact sound.suits user (Or.inl ⟨i, rfl⟩)

theorem undoes (sound : Sound initial email desk s stage place) (sends : s.programs i = .send .rollback next)
    (here : place i = .undoing) : Advances lower new initial email desk s place i .rollback next := by
  have allowed : stage.Allows i .undoing := here ▸ sound.allowed i
  cases allowed with
  | early late _ => cases late
  | undoing =>
    refine sound.stays sends .returning (by rw [here]; exact .undone) ?_ .returning
    rw [effect, sound.committed]
    rfl

theorem returns (first : FirstLogins lower new initial email desk req) (sound : Sound initial email desk s stage place)
    (sends : s.programs i = .send (.statement (.findUserByEmail email)) next) (here : place i = .returning) :
    Advances lower new initial email desk s place i (.statement (.findUserByEmail email)) next := by
  have allowed : stage.Allows i .returning := here ▸ sound.allowed i
  obtain ⟨told, kept⟩ := sound.looks first (i := i) (by rw [here]; rfl)
  cases allowed with
  | early late _ => cases late
  | @returning _ user => exact sound.stays sends (.signing user) (by rw [told, here]; exact .found) kept .signing

theorem signs (sound : Sound initial email desk s stage place) {user : User}
    (sends : s.programs i = .send (.statement (.rolesOf user.id)) next) (here : place i = .signing user) :
    Advances lower new initial email desk s place i (.statement (.rolesOf user.id)) next := by
  have allowed : stage.Allows i (.signing user) := here ▸ sound.allowed i
  have closed : s.opened i = none := (sound.opened i).trans (by rw [here]; rfl)
  have view : s.view i = stage.committed initial := sound.view_committed (by rw [here]; rfl)
  cases allowed with
  | early late _ => cases late
  | signing =>
    refine sound.stays sends (.settled user) ?_ ?_ .settled
    · rw [here, reply, view, Directory.answer, Stage.committed, (sound.suits user (Or.inr rfl)).roles]
      exact .told
    · simp only [effect, closed, Directory.written, Directory.append_none, sound.committed]
      rfl

/-- The next message is answered as foreseen, and the rows stay as they should be. -/
theorem advances (first : FirstLogins lower new initial email desk req) (sound : Sound initial email desk s stage place)
    (sends : s.programs i = .send m next) (free : ¬s.Waits lower i m) :
    Advances lower new initial email desk s place i m next := by
  have message := sound.message sends
  cases here : place i <;> rw [here] at message <;> cases message
  case arriving => exact sound.arrives first sends here
  case opening => exact sound.begins sends here
  case adding => exact sound.adds first sends free here
  case granting user => exact sound.grants sends here
  case closing user => exact sound.closes sends here
  case undoing => exact sound.undoes sends here
  case returning => exact sound.returns first sends here
  case signing user => exact sound.signs sends here

/-- A step takes some connection to a place with fewer messages ahead. -/
theorem step (first : FirstLogins lower new initial email desk req) {s' : Lobby n}
    (sound : Sound initial email desk s stage place) (step : Step lower new s s') :
    ∃ (stage' : Stage n) (place' : Fin n → Place), Sound initial email desk s' stage' place' ∧
      ∑ i, (place' i).rank < ∑ i, (place i).rank := by
  cases step with
  | exchange i sends free =>
    obtain ⟨stage', place', fewer, sound'⟩ := sound.advances first sends free
    refine ⟨stage', _, sound', Finset.sum_lt_sum (fun j _ => ?_) ⟨i, Finset.mem_univ i, ?_⟩⟩
    · rw [Function.update_apply]
      split
      · next here =>
        rw [here]
        exact fewer.le
      · exact le_rfl
    · rw [Function.update_self]
      exact fewer

/-- Any number of steps leads to a sound state, and each has brought one log-in nearer to its end, by induction on them.
-/
theorem steps (first : FirstLogins lower new initial email desk req) {k : Nat}
    (steps : Steps lower new (Lobby.start initial desk req) k s) :
    ∃ (stage : Stage n) (place : Fin n → Place), Sound initial email desk s stage place ∧
      k + ∑ i, (place i).rank ≤ 6 * n := by
  induction steps with
  | none =>
    refine ⟨_, _, start first, ?_⟩
    simp [Place.rank, Nat.mul_comm]
  | more _ step ih =>
    obtain ⟨stage, place, sound, bound⟩ := ih
    obtain ⟨stage', place', sound', fewer⟩ := sound.step first step
    exact ⟨stage', place', sound', by omega⟩

theorem settled_or_sends (sound : Sound initial email desk s stage place) (i : Fin n) :
    (∃ user, place i = .settled user) ∨ ∃ m next, s.programs i = .send m next := by
  have leads := sound.leads i
  cases goes : s.programs i with
  | send m next => exact Or.inr ⟨m, next, rfl⟩
  | done result =>
    rw [goes] at leads
    obtain ⟨user, last, -⟩ := leads
    exact Or.inl ⟨user, last⟩

/-- Only an insertion waits. -/
theorem free_of_ne (sound : Sound initial email desk s stage place) (sends : s.programs i = .send m next)
    (elsewhere : place i ≠ .adding) : ¬s.Waits lower i m := by
  have message := sound.message sends
  cases here : place i with
  | adding => exact absurd here elsewhere
  | _ =>
    rw [here] at message
    cases message <;> exact id

/-- While some log-in has not ended, one of them can go on: an insertion waits for a transaction that waits for nothing. -/
theorem settled (sound : Sound initial email desk s stage place) (stuck : ∀ s', ¬Step lower new s s') (i : Fin n) :
    ∃ user, place i = .settled user := by
  have elsewhere (j : Fin n) (other : place j ≠ .adding) : ∃ user, place j = .settled user := by
    refine (sound.settled_or_sends j).resolve_right ?_
    rintro ⟨m, next, sends⟩
    exact stuck _ (.exchange j sends (sound.free_of_ne sends other))
  by_cases here : place i = .adding
  · obtain ⟨user, last⟩ | ⟨m, next, sends⟩ := sound.settled_or_sends i
    · exact ⟨user, last⟩
    · have message := sound.message sends
      rw [here] at message
      obtain rfl := Option.some.inj message
      obtain ⟨j, own, -, held, known⟩ := not_not.1 fun free => stuck _ (.exchange i sends free)
      have added := (sound.opened j).symm.trans held
      by_cases there : place j = .adding
      · rw [there] at added
        obtain rfl := Option.some.inj added
        exact absurd rfl known
      · obtain ⟨user, last⟩ := elsewhere j there
        rw [last] at added
        cases added
  · exact elsewhere i here

theorem result (sound : Sound initial email desk s stage place) {user : User} (last : place i = .settled user) :
    ∃ result, s.programs i = .done result ∧ AsEmployee (desk i) user result := by
  have leads := sound.leads i
  rw [last] at leads
  cases goes : s.programs i with
  | send m next =>
    rw [goes] at leads
    cases leads.1
  | done result =>
    rw [goes] at leads
    obtain ⟨user', same, employee⟩ := leads
    obtain rfl := Place.settled.inj same
    exact ⟨result, rfl, employee⟩

end Sound

/-- All log-ins have ended with one user. It and its role are the only rows that they have left. -/
structure Shared (lower : String → String) (initial : Directory) (email : String) (desk : Fin n → Desk) (s : Lobby n)
    (user : User) : Prop where
  address : user.email = email
  rows : s.committed = initial ++ .ofUser user
  users : s.committed.withAddress lower email = [user]
  roles : s.committed.rolesOf user.id = [.employee]
  closed : ∀ i, s.opened i = none
  results : ∀ i, ∃ result, s.programs i = .done result ∧ AsEmployee (desk i) user result

/-- Once all are done they share the one user. -/
theorem Sound.shared {s : Lobby n} {stage : Stage n} {place : Fin n → Place}
    (first : FirstLogins lower new initial email desk req) (sound : Sound initial email desk s stage place)
    (someone : 0 < n) (settled : ∀ i, ∃ user, place i = .settled user) : ∃ user, Shared lower initial email desk s user := by
  obtain ⟨user, here⟩ := settled ⟨0, someone⟩
  have stage_eq : stage = .shared user := by
    have allowed := sound.allowed ⟨0, someone⟩
    rw [here] at allowed
    cases allowed with
    | early late _ => cases late
    | settled => rfl
  subst stage_eq
  have everywhere (i : Fin n) : place i = .settled user := by
    obtain ⟨user', there⟩ := settled i
    have allowed := sound.allowed i
    rw [there] at allowed ⊢
    cases allowed with
    | early late _ => cases late
    | settled => rfl
  have suits := sound.suits user (Or.inr rfl)
  have rows : s.committed = initial ++ .ofUser user := sound.committed
  refine ⟨user, suits.address, rows, ?_, ?_, fun i => (sound.opened i).trans (by rw [everywhere i]; rfl),
    fun i => sound.result (everywhere i)⟩
  · rw [rows]
    exact sound.seen_committed first
  · rw [rows]
    exact suits.roles

/-- Log-ins with one new address end after at most six messages each, in whatever order these are sent. When nothing more
can be sent, one user has been added, with the role of an employee, and every log-in has returned that user. -/
theorem logins_share_user (first : FirstLogins lower new initial email desk req) (someone : 0 < n) {k : Nat} {s : Lobby n}
    (steps : Steps lower new (start initial desk req) k s) :
    k ≤ 6 * n ∧ ((∀ s', ¬Step lower new s s') → ∃ user, Shared lower initial email desk s user) := by
  obtain ⟨stage, place, sound, bound⟩ := Sound.steps first steps
  exact ⟨by omega, fun stuck => sound.shared first someone (sound.settled stuck)⟩

/-- The log-ins can always be brought to an end. -/
theorem exists_complete (first : FirstLogins lower new initial email desk req) :
    ∃ k s, Steps lower new (start initial desk req) k s ∧ ∀ s', ¬Step lower new s s' := by
  by_contra endless
  push Not at endless
  have longer (k : Nat) : ∃ s, Steps lower new (start initial desk req) k s := by
    induction k with
    | zero => exact ⟨_, .none⟩
    | succ k ih =>
      obtain ⟨s, steps⟩ := ih
      obtain ⟨s', step⟩ := endless k s steps
      exact ⟨s', .more steps step⟩
  obtain ⟨s, steps⟩ := longer (6 * n + 1)
  obtain ⟨stage, place, -, bound⟩ := Sound.steps first steps
  omega

/-- The users whom the store would make of the two newcomers, and its fault for the one who is late. -/
def raceEntrant : Fin 2 → Entrant
  | 0 => { id := .ofNat 4, now := ⟨0⟩, message := "duplicate key", constraint := some "users_active_email_key" }
  | 1 => { id := .ofNat 5, now := ⟨0⟩, message := "duplicate key", constraint := some "users_active_email_key" }

theorem race_firstLogins : FirstLogins Text.lower raceEntrant {} "ann@acme.com" (fun _ => frontDesk) fun _ => raceLogin where
  validated _ := frontDesk_validates
  asks _ := Or.inl rfl
  unknown := rfl
  unused _ _ := List.not_mem_nil

/-- Two log-ins end within twelve messages, with one user. -/
theorem race_shared : ∃ k s, Steps Text.lower raceEntrant (start {} (fun _ => frontDesk) fun _ => raceLogin) k s ∧
    k ≤ 12 ∧ frontDesk.Issues ∧ ∃ user, Shared Text.lower {} "ann@acme.com" (fun _ => frontDesk) s user := by
  obtain ⟨k, s, steps, complete⟩ := exists_complete race_firstLogins
  obtain ⟨bound, shared⟩ := logins_share_user race_firstLogins (by decide) steps
  exact ⟨k, s, steps, bound, ⟨by decide +kernel, by decide +kernel⟩, shared complete⟩

end Lobby
end AssetRegistry.Store
