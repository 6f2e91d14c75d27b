import AssetRegistry.Proofs.Faults
import AssetRegistry.Proofs.StaffAddresses

namespace AssetRegistry

/-- What a request has to meet, and how one that does not is objected to. -/
structure Requirement where
  met : Prop
  objection : ServiceError → Prop

/-- A requirement with one error for all requests that do not meet it. -/
def Requirement.orElse (met : Prop) (e : ServiceError) : Requirement := ⟨met, (· = e)⟩

/-- The request meets every requirement. -/
def Met (rs : List Requirement) : Prop := ∀ r ∈ rs, r.met

/-- The objection that the first of some requirements gives rise to which is not met. -/
inductive FirstObjection : List Requirement → ServiceError → Prop
  | here {r : Requirement} {rs : List Requirement} {e : ServiceError} : ¬r.met → r.objection e →
      FirstObjection (r :: rs) e
  | later {r : Requirement} {rs : List Requirement} {e : ServiceError} : r.met → FirstObjection rs e →
      FirstObjection (r :: rs) e

/-- A request that is objected to does not meet all requirements. -/
theorem FirstObjection.not_met {rs : List Requirement} {e : ServiceError} (objects : FirstObjection rs e) : ¬Met rs := by
  induction objects with
  | here unmet _ => exact fun met => unmet (met _ List.mem_cons_self)
  | later _ _ ih => exact fun met => ih fun r member => met r (List.mem_cons_of_mem _ member)

/-- A check lets through what meets the requirements, and fails with the first objection to anything else. -/
structure Enforces {α : Type} (x : Except ServiceError α) (rs : List Requirement) : Prop where
  met : ∀ a, x = .ok a → Met rs
  objects : ∀ e, x = .error e → FirstObjection rs e

namespace Enforces
open Service
variable {α β γ : Type} {x : Except ServiceError α} {f : α → Except ServiceError β} {r : Requirement}
  {rs : List Requirement}

theorem ok (a : α) : Enforces (.ok a) [] := ⟨by simp [Met], nofun⟩

/-- The first requirement is not met, so the rest is not looked at. -/
theorem fail {e : ServiceError} (unmet : ¬r.met) (objects : r.objection e) :
    Enforces (.error e : Except ServiceError α) (r :: rs) := by
  refine ⟨nofun, ?_⟩
  rintro _ ⟨⟩
  exact .here unmet objects

theorem given (met : r.met) (rest : Enforces x rs) : Enforces x (r :: rs) :=
  ⟨fun a found => List.forall_mem_cons.2 ⟨met, rest.met a found⟩, fun e fails => .later met (rest.objects e fails)⟩

/-- Checks one after the other enforce their requirements in this order. -/
theorem bind (first : Enforces x [r]) (rest : ∀ a, x = .ok a → Enforces (f a) rs) : Enforces (x >>= f) (r :: rs) := by
  constructor
  · intro b succeeds
    obtain ⟨a, checked, goesOn⟩ := ok_of_bind succeeds
    have met := first.met a checked r List.mem_cons_self
    exact List.forall_mem_cons.2 ⟨met, (rest a checked).met b goesOn⟩
  · intro e fails
    cases checked : x with
    | error e' =>
      rw [checked] at fails
      obtain rfl : e' = e := Except.error.inj fails
      cases first.objects _ checked with
      | here unmet objects => exact .here unmet objects
      | later _ none => cases none
    | ok a =>
      have met := first.met a checked r List.mem_cons_self
      rw [checked] at fails
      exact .later met ((rest a checked).objects e fails)

theorem optional {given : Option γ} {check : γ → Except ServiceError α} (absent : given = none → r.met)
    (checked : ∀ c, given = some c → Enforces (check c) [r]) : Enforces (given.mapM check) [r] := by
  cases given with
  | none => exact .given (absent rfl) (ok none)
  | some c =>
    show Enforces (check c >>= fun a => pure (some a)) [r]
    exact (checked c rfl).bind fun a _ => ok (some a)

theorem of_require {holds : Bool} {met : Prop} (decides : holds = true ↔ met) (e : ServiceError) :
    Enforces (require holds e) [.orElse met e] := by
  cases holds with
  | true => exact given (decides.1 rfl) (ok ())
  | false => exact fail (fun met => Bool.false_ne_true (decides.2 met)) rfl

end Enforces
end AssetRegistry

namespace AssetRegistry.Store

/-- A statement is sent before anything else. -/
def Exchange.Asks {ε α : Type} (x : Exchange ε α) : Prop := ∃ q next, x.run = .send (.statement q) next

/-- Something is sent, and a statement at any rate where the first reply is no fault. -/
def Exchange.Reaches {ε α : Type} (x : Exchange ε α) : Prop :=
  ∀ replies, (x.run.against replies).1 ≠ [] ∧
    ((replies 0).isFailed = false → ∃ q reply, (.statement q, reply) ∈ (x.run.against replies).1)

namespace Exchange
variable {ε ε' α β : Type}

theorem asks_single (q : Statement) (read : Reply → Except ε α) : (single q read).Asks := ⟨q, _, rfl⟩

theorem Asks.bind {x : Exchange ε α} (asks : x.Asks) (f : α → Exchange ε β) : (x >>= f).Asks := by
  obtain ⟨q, next, sends⟩ := asks
  refine ⟨q, fun reply => (ExceptT.mk (next reply) >>= f).run, ?_⟩
  show Dialogue.bind x.run _ = _
  rw [sends]
  rfl

theorem Asks.mapError {x : Exchange ε α} (asks : x.Asks) (f : ε → ε') : (x.mapError f).Asks := by
  obtain ⟨q, next, sends⟩ := asks
  refine ⟨q, fun reply => (Exchange.mapError f (ExceptT.mk (next reply))).run, ?_⟩
  show Dialogue.bind x.run _ = _
  rw [sends]
  rfl

theorem asks_fetchOptional (q : Statement) (read : RowReader α) : (fetchOptional q read).Asks := by
  rw [fetchOptional_eq_single]
  exact asks_single q _

theorem asks_fetchOne (q : Statement) (read : RowReader α) : (fetchOne q read).Asks := by
  rw [fetchOne_eq_single]
  exact asks_single q _

theorem asks_fetchAll (q : Statement) (read : RowReader α) : (fetchAll q read).Asks := by
  unfold fetchAll
  rw [rowsOf_eq_single]
  exact (asks_single q _).bind _

theorem Asks.stored {x : Exchange StoreError α} (asks : x.Asks) : (Service.stored x).Asks := asks.mapError _

/-- The first message is a statement, whatever is replied to it. -/
theorem Asks.first {x : Exchange ε α} (asks : x.Asks) (replies : Nat → Reply) :
    ∃ q events, (x.run.against replies).1 = (.statement q, replies 0) :: events := by
  obtain ⟨q, next, sends⟩ := asks
  rw [sends]
  exact ⟨q, _, rfl⟩

theorem Asks.reaches {x : Exchange ε α} (asks : x.Asks) : x.Reaches := by
  intro replies
  obtain ⟨q, events, sends⟩ := asks.first replies
  rw [sends]
  exact ⟨List.cons_ne_nil _ _, fun _ => ⟨q, replies 0, List.mem_cons_self⟩⟩

/-- A transaction whose work asks begins, and asks if it has begun. -/
theorem Asks.transaction {ofStore : StoreError → ε} {work : Exchange ε α} (asks : work.Asks) :
    (transaction ofStore work).Reaches := by
  intro replies
  rw [against_transaction]
  unfold settle
  rw [Dialogue.against_ask]
  obtain ⟨q, next, sends⟩ := asks
  rw [sends]
  cases replies 0 with
  | failed fault => exact ⟨List.cons_ne_nil _ _, nofun⟩
  | rows found => exact ⟨List.cons_ne_nil _ _, fun _ => ⟨q, _, List.mem_cons_of_mem _ List.mem_cons_self⟩⟩
  | affected count => exact ⟨List.cons_ne_nil _ _, fun _ => ⟨q, _, List.mem_cons_of_mem _ List.mem_cons_self⟩⟩

end Exchange
end AssetRegistry.Store

namespace AssetRegistry
open Store Service Exchange

/-- Ten decimal digits and nothing else. -/
def TenDigits (s : String) : Prop := s.toList.length = 10 ∧ ∀ c ∈ s.toList, c.isDigit

/-- No warranty ends before it begins. -/
def InOrder (start finish : Option Date) : Prop := ∀ first ∈ start, ∀ last ∈ finish, last.before first = false

namespace Requirement

/-- The warranty must not end before it begins. -/
def orderedWarranty (start finish : Option Date) : Requirement :=
  .orElse (InOrder start finish)
    (.validation "warranty_exp_date cannot be before warranty_start_date")

/-- An address, where one is given, is one of a person at the domain of the policy once it is in lower case and without
blanks around it. -/
def acceptedAddress (policy : EmailPolicy) (address : Option String) : Requirement where
  met := ∀ given ∈ address, AddressAt policy.domain (Text.lower (Text.trim given))
  objection e := ∃ given ∈ address, e = .validation ("Invalid email: " ++ Text.trim given)

/-- A phone number, where one is given, is blank or has ten digits. -/
def tenDigits (phone : Option String) : Requirement where
  met := ∀ given ∈ phone, Text.trim given = "" ∨ TenDigits (Text.trim given)
  objection e := ∃ given ∈ phone, e = .validation ("phone must be exactly 10 digits: " ++ Text.trim given)

/-- The role may be given by someone who acts in the other. -/
def mayBeGiven (actor target : Role) : Requirement where
  met := actor.creationBar? target = none
  objection e := ∃ bar, actor.creationBar? target = some bar ∧ e = .forbidden bar

/-- A token is good. -/
def goodToken {α : Type} (read : Except AuthError α) : Requirement where
  met := ∃ claims, read = .ok claims
  objection e := ∃ why, read = .error why ∧ e = .ofAuth why

/-- A page has rows and does not begin before the first one. -/
def pages (page : Query.Page) : List Requirement :=
  [.orElse (1 ≤ page.limit) (.persistence (.query ("Invalid limit: " ++ Text.ofInt page.limit.toInt))),
    .orElse (0 ≤ page.offset) (.persistence (.query ("Invalid offset: " ++ Text.ofInt page.offset.toInt)))]

end Requirement

/-- What a call has to meet before the store is asked, the most important first. -/
def Service.Call.requirements : Call → List Requirement
  | .mutation (.createAsset _ req) =>
    [.orElse (Text.trim req.serialNo ≠ "") (.validation "serial_no is required"),
      .orElse (req.purchasedDate ≠ none) (.validation "purchased_date is required"),
      .orElse (Text.trim req.model.brand.name ≠ "" ∧ Text.trim req.model.name ≠ "")
        (.validation "model name and brand name are required"),
      .orderedWarranty req.warrantyStart req.warrantyEnd,
      .orElse (req.status ≠ some .assigned)
        (.validation "initial status must be available or in_service; use assign to hand out an asset"),
      .orElse (Text.trim req.model.assetType ∈
          ["laptop", "mouse", "monitor", "mobile", "sim", "hard_disk", "pen_drive", "accessories"])
        (.unsupportedType (Text.trim req.model.assetType))]
  | .mutation (.createUser desk actor req) =>
    [.mayBeGiven actor.role req.role, .orElse (Text.trim req.name ≠ "") (.validation "name is required"),
      .acceptedAddress desk.policy req.email, .tenDigits req.phone]
  | .mutation (.updateUser desk _ _ patch) =>
    [.orElse (∀ name ∈ patch.name, Text.trim name ≠ "") (.validation "name cannot be empty"),
      .acceptedAddress desk.policy patch.email, .tenDigits patch.phone]
  | .mutation (.deleteUser actor id) => [.orElse (id ≠ actor.userId) (.forbidden "users cannot delete themselves")]
  | .login desk req => [.acceptedAddress desk.policy req.email]
  | .refresh desk req =>
    [.goodToken (desk.issuer.verifyRefresh desk.now req.refreshToken),
      .goodToken (desk.issuer.decodeExpiredAccess req.accessToken),
      .orElse (∃ (renewing : RefreshClaims) (access : AccessClaims),
          desk.issuer.verifyRefresh desk.now req.refreshToken = .ok renewing ∧
          desk.issuer.decodeExpiredAccess req.accessToken = .ok access ∧ renewing.userId = access.userId)
        (.unauthorized "token pair does not belong to one user")]
  | .listAssets _ page | .listUsers _ page => Requirement.pages page
  | _ => []

theorem trimmed_ne_iff (s : String) : (!(Text.trim s).isEmpty) = true ↔ Text.trim s ≠ "" := by simp

namespace Assets

theorem warrantyOrdered_iff (start finish : Option Date) :
    warrantyOrdered start finish = true ↔ InOrder start finish := by
  cases start <;> cases finish <;> simp [warrantyOrdered, InOrder]

/-- No asset is registered as assigned. -/
theorem enforces_initialStatus (wanted : Option AssetStatus) :
    Enforces (initialStatus wanted) [.orElse (wanted ≠ some .assigned)
      (.validation "initial status must be available or in_service; use assign to hand out an asset")] := by
  rcases wanted with _ | _ | _ | _
  · exact .given nofun (.ok _)
  · exact .given nofun (.ok _)
  · exact .fail (fun differs => differs rfl) rfl
  · exact .given nofun (.ok _)

theorem ofLabel?_assetType (tag : String) :
    (∃ t : AssetType, Vocabulary.ofLabel? tag = some t) ↔
      tag ∈ ["laptop", "mouse", "monitor", "mobile", "sim", "hard_disk", "pen_drive", "accessories"] := by
  rw [← Option.isSome_iff_exists]
  unfold Vocabulary.ofLabel?
  rw [List.find?_isSome]
  show _ ↔ tag ∈ Vocabulary.labels AssetType
  simp [Vocabulary.labels]

/-- The type of the model must be one of them, blanks aside. -/
theorem enforces_resolveType (tag : String) :
    Enforces ((resolveType tag).mapError ServiceError.ofAttributes) [.orElse (Text.trim tag ∈
      ["laptop", "mouse", "monitor", "mobile", "sim", "hard_disk", "pen_drive", "accessories"])
      (.unsupportedType (Text.trim tag))] := by
  have known := ofLabel?_assetType (Text.trim tag)
  unfold resolveType Vocabulary.parse
  cases found : (Vocabulary.ofLabel? (Text.trim tag) : Option AssetType) with
  | some t => exact .given (known.1 ⟨t, found⟩) (.ok t)
  | none => exact .fail (mt known.2 (by simp [found])) rfl

/-- A registration is checked for serial number, purchase, names, warranty, status and type, in this order. -/
theorem enforces_checkCreate (actor : Actor) (req : CreateAsset) :
    Enforces (checkCreate req) (Call.mutation (.createAsset actor req)).requirements := by
  unfold checkCreate
  refine .bind (.of_require (trimmed_ne_iff _) _) fun _ _ => ?_
  cases req.purchasedDate with
  | none => exact .fail (fun differs => differs rfl) rfl
  | some date =>
    refine .given nofun (.bind (.of_require (by simp) _) fun _ _ => ?_)
    refine .bind (.of_require (warrantyOrdered_iff _ _) _) fun _ _ => ?_
    exact .bind (enforces_initialStatus _) fun _ _ => .bind (enforces_resolveType _) fun _ _ => .ok _

end Assets

namespace Users

theorem isPhone_iff (s : String) : isPhone s = true ↔ TenDigits s := by
  unfold isPhone TenDigits Text.digitValue?
  simp only [Bool.and_eq_true, decide_eq_true_eq, List.all_eq_true, Option.isSome_ite, Char.isDigit]
  exact Iff.rfl

theorem enforces_normalizePhone (phone : Option String) : Enforces (normalizePhone phone) [.tenDigits phone] := by
  cases phone with
  | none => exact .given nofun (.ok none)
  | some phone =>
    unfold normalizePhone
    dsimp only
    split
    next blank => exact .given (by simpa [Requirement.tenDigits] using Or.inl blank) (.ok none)
    next full =>
      split
      next digits => 
        refine .given ?_ (.ok _)
        rintro _ ⟨⟩
        exact Or.inr ((isPhone_iff _).1 digits)
      next other =>
        refine .fail ?_ ⟨phone, rfl, rfl⟩
        intro met
        rcases met phone rfl with blank | digits
        · exact full (by simpa using blank)
        · exact other ((isPhone_iff _).2 digits)

theorem enforces_validate (policy : EmailPolicy) (address : String) :
    Enforces (authorized (policy.validate address)) [.acceptedAddress policy address] := by
  unfold authorized EmailPolicy.validate
  dsimp only
  split
  next accepted =>
    refine .given ?_ (.ok _)
    rintro _ ⟨⟩
    exact EmailPolicy.accepts_iff.1 accepted
  next rejected =>
    exact .fail (fun met => rejected (EmailPolicy.accepts_iff.2 (met address rfl))) ⟨address, rfl, rfl⟩

/-- A new user is checked for the caller's right, name, address and phone number, in this order. -/
theorem enforces_checkCreate (desk : Desk) (actor : Actor) (req : CreateUser) :
    Enforces (checkCreate desk actor req) (Call.mutation (.createUser desk actor req)).requirements := by
  unfold checkCreate
  cases barred : actor.role.creationBar? req.role with
  | some bar => exact .fail (by simp [Requirement.mayBeGiven, barred]) ⟨bar, barred, rfl⟩
  | none =>
    refine .given barred (.bind (.of_require (trimmed_ne_iff _) _) fun _ _ => ?_)
    exact .bind (enforces_validate _ _) fun _ _ => .bind (enforces_normalizePhone _) fun _ _ => .ok _

/-- An update of a user is checked for the name, address and phone number that it gives. -/
theorem enforces_checkUpdate (desk : Desk) (actor : Actor) (id : Uuid) (patch : UserPatch) :
    Enforces (checkUpdate desk patch) (Call.mutation (.updateUser desk actor id patch)).requirements := by
  unfold checkUpdate
  refine .bind (.of_require (by cases patch.name <;> simp) _) fun _ _ => ?_
  have address : Enforces (patch.email.mapM fun email => authorized (desk.policy.validate email))
      [.acceptedAddress desk.policy patch.email] := by
    refine .optional ?_ fun email given => ?_
    · intro absent email given
      rw [absent] at given
      cases given
    · rw [given]
      exact enforces_validate _ _
  exact .bind address fun _ _ => .bind (enforces_normalizePhone _) fun _ _ => .ok _

theorem enforces_token {α : Type} (read : Except AuthError α) : Enforces (authorized read) [.goodToken read] := by
  cases read with
  | ok claims => exact .given ⟨claims, rfl⟩ (.ok claims)
  | error why => exact .fail nofun ⟨why, rfl, rfl⟩

theorem enforces_checkPair (desk : Desk) (req : Refresh) :
    Enforces (checkPair desk req) (Call.refresh desk req).requirements := by
  unfold checkPair
  refine .bind (enforces_token _) fun renewing verified => .bind (enforces_token _) fun access decoded => ?_
  refine .bind (.of_require ?_ _) fun _ _ => .ok _
  have verified := ok_of_mapError verified
  have decoded := ok_of_mapError decoded
  simp [verified, decoded]

end Users

namespace Query.Condition

/-- The condition has a text, whatever its placeholder. -/
def Worded (c : Condition) : Prop := ∀ slot, ∃ text, c.clause slot = .ok text

theorem renders_of_worded {conditions : List Condition} (worded : ∀ c ∈ conditions, c.Worded) (start : Nat) :
    ∃ clauses, render start conditions = .ok clauses := by
  have clauses : ∃ found, clauses start conditions = .ok found := by
    induction conditions generalizing start with
    | nil => exact ⟨_, rfl⟩
    | cons c cs ih =>
      obtain ⟨text, first⟩ := worded c List.mem_cons_self (placeholder (start + 1))
      have later := ih fun c member => worded c (List.mem_cons_of_mem _ member)
      obtain ⟨found, rest⟩ := later (start + c.param?.toList.length)
      unfold Condition.clauses
      rw [first]
      show ∃ found, (Condition.clauses (start + c.param?.toList.length) cs >>= fun _ => _) = .ok found
      rw [rest]
      exact ⟨_, rfl⟩
  obtain ⟨found, clauses⟩ := clauses
  unfold render
  rw [clauses]
  exact ⟨_, rfl⟩

theorem worded_of_mem_ofSearch {columns : List String} {term : Option String} {c : Condition}
    (member : c ∈ ofSearch columns term) : c.Worded := by
  unfold ofSearch at member
  split at member
  · split at member
    · cases member
    · obtain rfl := List.mem_singleton.1 member
      exact fun slot => ⟨_, rfl⟩
  · cases member

end Query.Condition

open Query.Condition

/-- A query whose conditions have texts is no good only if its page is not. -/
theorem enforces_render {q : Query.Select} {page : Query.Page} (paged : q.page = some page)
    (worded : ∀ c ∈ q.conditions, c.Worded) :
    Enforces ((q.render.mapError fun e => StoreError.query e.message).mapError ServiceError.ofStore)
      (Requirement.pages page) := by
  obtain ⟨clauses, rendered⟩ := renders_of_worded worded 0
  unfold Query.Select.render
  rw [paged, rendered]
  show Enforces (((Query.checkPage page >>= fun _ => _).mapError _).mapError _) _
  unfold Query.checkPage
  by_cases short : page.limit < 1
  · rw [if_pos short]
    exact .fail (Int64.not_le.2 short) rfl
  · rw [if_neg short]
    refine .given (Int64.not_lt.1 short) ?_
    by_cases early : page.offset < 0
    · rw [if_pos early]
      exact .fail (Int64.not_le.2 early) rfl
    · rw [if_neg early]
      exact .given (Int64.not_lt.1 early) (.ok _)

namespace Assets

theorem worded_of_mem_label {α : Type} [Vocabulary α] {column : String} {wanted : Option α} {c : Query.Condition}
    (member : c ∈ labelCondition column wanted) : c.Worded := by
  cases wanted with
  | none => cases member
  | some a =>
    obtain rfl := List.mem_singleton.1 member
    exact fun slot => ⟨_, rfl⟩

/-- The conditions on assets are rendered, whatever is asked for. -/
theorem worded_listConditions (filter : AssetFilter) : ∀ c ∈ listConditions filter, c.Worded := by
  intro c member
  unfold listConditions at member
  simp only [List.cons_append, List.mem_cons, List.mem_append] at member
  obtain rfl | ((searched | typed) | status) | owned := member
  · exact fun slot => ⟨_, rfl⟩
  · exact worded_of_mem_ofSearch searched
  · exact worded_of_mem_label typed
  · exact worded_of_mem_label status
  · exact worded_of_mem_label owned

end Assets

namespace Users

theorem worded_of_mem_labels {α : Type} [Vocabulary α] {sql : String} {values : List α} {c : Query.Condition}
    (pieces : (Query.templatePieces sql.toList).length = 2)
    (member : c ∈ labelsCondition sql values) : c.Worded := by
  unfold labelsCondition at member
  split at member
  · cases member
  · obtain rfl := List.mem_singleton.1 member
    intro slot
    match split : Query.templatePieces sql.toList, pieces with
    | [before, after], _ => exact ⟨_, by rw [Query.Condition.clause, split]⟩

theorem worded_listConditions (filter : UserFilter) : ∀ c ∈ listConditions filter, c.Worded := by
  intro c member
  unfold listConditions Query.Condition.ofAnyOf at member
  simp only [List.cons_append, List.mem_cons, List.mem_append] at member
  obtain rfl | ((searched | typed) | held) | status := member
  · exact fun slot => ⟨_, rfl⟩
  · exact worded_of_mem_ofSearch searched
  · split at typed
    · cases typed
    · obtain rfl := List.mem_singleton.1 typed
      exact fun slot => ⟨_, rfl⟩
  · exact worded_of_mem_labels (by decide +kernel) held
  · exact worded_of_mem_labels (by decide +kernel) status

theorem summary_eq (id : Uuid) : ∃ rendered, summary id = fetchOptional (.listUsers rendered) UserSummary.ofRow := by
  have worded : ∀ c ∈ (summaryQuery id).conditions, c.Worded := by
    intro c member
    simp only [summaryQuery, List.mem_cons, List.not_mem_nil, or_false] at member
    obtain rfl | rfl := member
    · exact fun slot => ⟨_, rfl⟩
    · exact fun slot => ⟨_, rfl⟩
  obtain ⟨clauses, rendered⟩ := renders_of_worded worded 0
  have renders : ∃ text, (summaryQuery id).render = .ok text := by
    unfold Query.Select.render
    rw [rendered]
    exact ⟨_, rfl⟩
  obtain ⟨text, renders⟩ := renders
  unfold summary checkQuery
  rw [renders]
  exact ⟨text, rfl⟩

end Users

/-- What becomes of a request that has to meet requirements before the store is asked. -/
structure Screened {α : Type} (rs : List Requirement) (first : Reply) (run : List Event × Except ServiceError α) :
    Prop where
  sends : run.1 ≠ [] ↔ Met rs
  asks : Met rs → first.isFailed = false → ∃ q reply, (.statement q, reply) ∈ run.1
  objected : run.1 = [] → ∃ e, run.2 = .error e ∧ FirstObjection rs e

/-- Without requirements the store is reached. -/
theorem screened_of_reaches {α : Type} {x : Operation α} (reaches : x.Reaches) (replies : Nat → Reply) :
    Screened [] (replies 0) (x.run.against replies) := by
  obtain ⟨sends, asks⟩ := reaches replies
  exact ⟨iff_of_true sends (by simp [Met]), fun _ => asks, fun silent => absurd silent sends⟩

/-- A check before the first statement screens the request. -/
theorem screened_checked {α β : Type} {check : Except ServiceError α} {rs : List Requirement} {work : α → Operation β}
    (enforces : Enforces check rs) (reaches : ∀ a, (work a).Reaches) (replies : Nat → Reply) :
    Screened rs (replies 0) ((Exchange.ofExcept check >>= work).run.against replies) := by
  cases checked : check with
  | ok a =>
    have met := enforces.met a checked
    obtain ⟨sends, asks⟩ := reaches a replies
    rw [against_bind_ok (x := Exchange.ofExcept _) rfl]
    exact ⟨iff_of_true sends met, fun _ => asks, fun silent => absurd silent sends⟩
  | error e =>
    have objects := enforces.objects e checked
    rw [against_bind_error (x := Exchange.ofExcept _) rfl]
    refine ⟨iff_of_false (fun sends => sends rfl) objects.not_met, fun met => absurd met objects.not_met, fun _ => ?_⟩
    exact ⟨e, rfl, objects⟩

theorem stored_checked {α β : Type} (check : Except StoreError α) (work : α → Exchange StoreError β) :
    stored (Exchange.ofExcept check >>= work) =
      Exchange.ofExcept (check.mapError ServiceError.ofStore) >>= fun a => stored (work a) := by
  cases check <;> rfl

theorem screened_list {α : Type} {q : Query.Select} {page : Query.Page} (paged : q.page = some page)
    (worded : ∀ c ∈ q.conditions, c.Worded) (statement : Query.Rendered → Statement) (read : RowReader α)
    (replies : Nat → Reply) :
    Screened (Requirement.pages page) (replies 0)
      ((stored (do fetchAll (statement (← checkQuery q)) read)).run.against replies) := by
  have checked := stored_checked (q.render.mapError fun e => StoreError.query e.message)
    fun rendered => fetchAll (statement rendered) read
  unfold checkQuery
  rw [checked]
  exact screened_checked (enforces_render paged worded) (fun rendered => (asks_fetchAll _ _).stored.reaches) replies

theorem asks_findOrInsert {α : Type} (find insert : Statement) (read : RowReader α) (missing : StoreError) :
    (findOrInsert find insert read missing).Asks := (asks_fetchOptional find read).bind _

theorem Assets.asks_lock (id : Uuid) : (stored (lock id)).Asks := ((asks_fetchOptional _ _).bind _).stored

theorem Assets.asks_find (id : Uuid) : (find id).Asks := (asks_fetchOptional _ _).stored.bind _

-- Otherwise the check is carried out wherever a goal is compared with what becomes of a request.
attribute [local irreducible] Assets.checkCreate Users.checkCreate Users.checkUpdate Users.checkPair

/-- Every change is screened by its requirements. -/
theorem Service.Mutation.screened (m : Mutation) (replies : Nat → Reply) :
    Screened (Call.mutation m).requirements (replies 0) (m.operation.run.against replies) := by
  cases m with
  | createAsset actor req =>
    refine screened_checked (Assets.enforces_checkCreate actor req) (fun r => Asks.transaction ?_) replies
    exact (asks_findOrInsert _ _ _ _).stored.bind _
  | updateAsset actor id req => exact screened_of_reaches ((Assets.asks_find id).bind _).reaches replies
  | assignAsset req => exact screened_of_reaches ((Assets.asks_lock _).bind _).transaction replies
  | retrieveAsset id => exact screened_of_reaches ((Assets.asks_lock _).bind _).transaction replies
  | archiveAsset actor id => exact screened_of_reaches ((Assets.asks_lock _).bind _).transaction replies
  | createUser desk actor req =>
    refine screened_checked (Users.enforces_checkCreate desk actor req) (fun user => Asks.transaction ?_) replies
    exact (asks_fetchOptional _ _).stored.bind _
  | updateUser desk actor id patch =>
    refine screened_checked (Users.enforces_checkUpdate desk actor id patch) (fun patch => Asks.transaction ?_) replies
    exact (asks_fetchOptional _ _).stored.bind _
  | deleteUser actor id =>
    refine screened_checked (.of_require (by simp) _) (fun _ => Asks.transaction ?_) replies
    exact ((asks_fetchOptional _ _).bind _).stored.bind _

/-- Whatever the store answers, a call sends something if and only if its request meets all requirements, and then asks
the store as soon as it may. Where nothing is sent, the call fails with the first objection to the request. -/
theorem Service.requests_checked_first (call : Call) (replies : Nat → Reply) :
    Screened call.requirements (replies 0) (call.operation.run.against replies) := by
  cases call with
  | mutation m => exact m.screened replies
  | findAsset id => exact screened_of_reaches (Assets.asks_find id).reaches replies
  | assetDetail id => exact screened_of_reaches ((Assets.asks_find id).bind _).reaches replies
  | isAvailable id => exact screened_of_reaches ((asks_fetchOne _ _).bind _).stored.reaches replies
  | listAssets filter page => exact screened_list rfl (Assets.worded_listConditions filter) _ _ replies
  | assetTimeline id => exact screened_of_reaches ((asks_fetchOne _ _).stored.bind _).reaches replies
  | assetsOfUser id => exact screened_of_reaches (asks_fetchAll _ _).stored.reaches replies
  | login desk req =>
    refine screened_checked (Users.enforces_validate desk.policy req.email) (fun email => ?_) replies
    exact (((asks_fetchOptional _ _).stored.bind _).bind _).reaches
  | refresh desk req =>
    refine screened_checked (Users.enforces_checkPair desk req) (fun pair => ?_) replies
    exact ((asks_fetchOptional _ _).stored.bind _).reaches
  | listUsers filter page => exact screened_list rfl (Users.worded_listConditions filter) _ _ replies
  | userDetails id =>
    obtain ⟨rendered, summarized⟩ := Users.summary_eq id
    have asks : (stored (Users.summary id)).Asks := by
      rw [summarized]
      exact (asks_fetchOptional _ _).stored
    exact screened_of_reaches (asks.bind _).reaches replies
  | userTimeline id => exact screened_of_reaches (asks_fetchAll _ _).stored.reaches replies
  | activeAssignments id => exact screened_of_reaches (asks_fetchOne _ _).stored.reaches replies

end AssetRegistry
