import AssetRegistry.Settings
import Mathlib.Data.List.Nodup
import Mathlib.Data.List.Pairwise
import Mathlib.Logic.Function.Basic

namespace AssetRegistry.Settings

/-- A field that the environment may override. -/
inductive Field where
  | url
  | maxConnections
  | connectionTimeout
  | statementTimeout
  | runMigrations
  | listensOn
  | requestTimeout
  | defaultPageSize
  | maxPageSize
  | secret
  | accessMinutes
  | refreshHours
  | emailDomain
  | enableCors
  deriving DecidableEq

namespace Field

/-- All fields that a variable can override. -/
def all : List Field :=
  [url, maxConnections, connectionTimeout, statementTimeout, runMigrations, listensOn, requestTimeout, defaultPageSize,
   maxPageSize, secret, accessMinutes, refreshHours, emailDomain, enableCors]

/-- The type of a field's values. -/
def Value : Field → Type
  | url => Option String
  | maxConnections => UInt32
  | listensOn => UInt16
  | connectionTimeout | statementTimeout | requestTimeout => UInt64
  | defaultPageSize | maxPageSize | accessMinutes | refreshHours => Int64
  | runMigrations | enableCors => Bool
  | secret | emailDomain => String

/-- The variables of a field; each counts only where those before it are not set. -/
def names : Field → List String
  | url => ["DATABASE_URL"]
  | maxConnections => ["DATABASE_MAX_CONNECTIONS"]
  | connectionTimeout => ["DATABASE_CONNECTION_TIMEOUT"]
  | statementTimeout => ["DATABASE_STATEMENT_TIMEOUT_MS"]
  | runMigrations => ["DATABASE_RUN_MIGRATIONS"]
  | listensOn => ["STOREX_PORT", "PORT"]
  | requestTimeout => ["API_REQUEST_TIMEOUT_SECS"]
  | defaultPageSize => ["API_DEFAULT_PAGE_SIZE"]
  | maxPageSize => ["API_MAX_PAGE_SIZE"]
  | secret => ["JWT_SECRET"]
  | accessMinutes => ["JWT_ACCESS_TTL_MINUTES"]
  | refreshHours => ["JWT_REFRESH_TTL_HOURS"]
  | emailDomain => ["AUTH_EMAIL_DOMAIN"]
  | enableCors => ["SECURITY_ENABLE_CORS"]

/-- The value of a field in a text. Only numbers and switches may fail to read: a field of text reads every text. -/
def read : (f : Field) → String → Option f.Value
  | url => fun text => some (some text)
  | maxConnections => uint32?
  | listensOn => uint16?
  | connectionTimeout | statementTimeout | requestTimeout => uint64?
  | defaultPageSize | maxPageSize | accessMinutes | refreshHours => Text.int64?
  | runMigrations | enableCors => Text.flag?
  | secret => fun text => some text
  | emailDomain => fun text => some (Text.lower (Text.trim text))

theorem mem_all (f : Field) : f ∈ all := by cases f <;> decide

end Field

/-- Besides the profile's own variable, the service knows the variables of the fields. -/
theorem variableNames_eq : variableNames = "APP_ENV" :: Field.all.flatMap Field.names := rfl

theorem mem_variableNames_iff {v : String} : v ∈ variableNames ↔ v = "APP_ENV" ∨ ∃ f : Field, v ∈ f.names := by
  rw [variableNames_eq, List.mem_cons, List.mem_flatMap]
  exact or_congr_right (exists_congr fun f => and_iff_right f.mem_all)

/-- No variable is there twice: not for one field, not for two, and not for a field and the profile. -/
theorem names_distinct : "APP_ENV" ∉ Field.all.flatMap Field.names ∧ (∀ f ∈ Field.all, f.names.Nodup) ∧
    Field.all.Pairwise (Function.onFun List.Disjoint Field.names) := by
  rw [← List.nodup_flatMap, ← List.nodup_cons]
  decide

namespace Field

theorem nodup_names (f : Field) : f.names.Nodup := names_distinct.2.1 f f.mem_all

theorem ne_profile {f : Field} {v : String} (named : v ∈ f.names) : v ≠ "APP_ENV" := by
  rintro rfl
  exact names_distinct.1 (List.mem_flatMap.2 ⟨f, f.mem_all, named⟩)

/-- No variable belongs to two fields. -/
theorem eq_of_mem {f g : Field} {v : String} (own : v ∈ f.names) (other : v ∈ g.names) : f = g := by
  by_contra differ
  have symmetric : Std.Symm (Function.onFun List.Disjoint names) := ⟨fun _ _ apart _ right left => apart left right⟩
  exact names_distinct.2.2.forall f.mem_all g.mem_all differ own other

theorem mem_of_split {f : Field} {v : String} {before after : List String} (split : f.names = before ++ v :: after) :
    v ∈ f.names :=
  split ▸ List.mem_append_right before List.mem_cons_self

theorem names_eq_singleton {f : Field} {v : String} (one : f ≠ listensOn) (named : v ∈ f.names) :
    f.names = [v] := by
  cases f with
  | listensOn => exact absurd rfl one
  | _ =>
    obtain rfl := List.mem_singleton.1 named
    rfl

end Field

/-- What the settings say of a field. -/
def value (s : Settings) : (f : Field) → f.Value
  | .url => s.store.url
  | .maxConnections => s.store.maxConnections
  | .connectionTimeout => s.store.connectionTimeout
  | .statementTimeout => s.store.statementTimeout
  | .runMigrations => s.store.runMigrations
  | .listensOn => s.api.listensOn
  | .requestTimeout => s.api.requestTimeout
  | .defaultPageSize => s.api.defaultPageSize
  | .maxPageSize => s.api.maxPageSize
  | .secret => s.security.secret
  | .accessMinutes => s.security.accessMinutes
  | .refreshHours => s.security.refreshHours
  | .emailDomain => s.security.emailDomain
  | .enableCors => s.security.enableCors

/-- The settings that say this of each field. -/
def ofValues (profile : Profile) (value : (f : Field) → f.Value) : Settings where
  profile := profile
  store :=
    { url := value .url
      maxConnections := value .maxConnections
      connectionTimeout := value .connectionTimeout
      statementTimeout := value .statementTimeout
      runMigrations := value .runMigrations }
  api :=
    { listensOn := value .listensOn
      requestTimeout := value .requestTimeout
      defaultPageSize := value .defaultPageSize
      maxPageSize := value .maxPageSize }
  security :=
    { secret := value .secret
      accessMinutes := value .accessMinutes
      refreshHours := value .refreshHours
      emailDomain := value .emailDomain
      enableCors := value .enableCors }

/-- Settings are a profile and the values of the fields, and nothing else. -/
theorem ofValues_value (s : Settings) : ofValues s.profile s.value = s := rfl

/-- Nothing but one field is told apart. -/
structure AlikeBut (f : Field) (s t : Settings) : Prop where
  profile : s.profile = t.profile
  value : ∀ g, g ≠ f → s.value g = t.value g

theorem eq_of_values {s t : Settings} (profile : s.profile = t.profile) (values : ∀ f, s.value f = t.value f) : s = t :=
  calc s = ofValues s.profile s.value := (ofValues_value s).symm
    _ = ofValues t.profile t.value := by rw [profile, funext values]
    _ = t := ofValues_value t

theorem AlikeBut.eq_iff {f : Field} {s t : Settings} (alike : AlikeBut f s t) : s = t ↔ s.value f = t.value f := by
  refine ⟨fun same => same ▸ rfl, fun own => eq_of_values alike.profile fun g => ?_⟩
  by_cases here : g = f
  · rw [here, own]
  · exact alike.value g here

/-- What counts for a field, whether it reads or not. -/
def given (env : Environment) (f : Field) : Option String := f.names.findSome? env

/-- The value of a field where the environment gives nothing for it. -/
def usual (env : Environment) (f : Field) : f.Value := (ofProfile (profileOf (env "APP_ENV"))).value f

variable {env env' : Environment} {f : Field} {v : String}

theorem given_of_singleton (single : f.names = [v]) : given env f = env v := by
  rw [given, single, List.findSome?_singleton]

theorem given_listensOn (env : Environment) : given env .listensOn = listenVariable env := by
  show ["STOREX_PORT", "PORT"].findSome? env = (env "STOREX_PORT" <|> env "PORT")
  rw [List.findSome?_cons, List.findSome?_singleton]
  cases env "STOREX_PORT" <;> rfl

theorem profile_ofEnvironment (env : Environment) : (ofEnvironment env).profile = profileOf (env "APP_ENV") := by
  unfold ofEnvironment
  cases profileOf (env "APP_ENV") <;> rfl

/-- What counts for a field is taken if it reads, and otherwise the field keeps its usual value. -/
theorem value_ofEnvironment (env : Environment) (f : Field) :
    (ofEnvironment env).value f = ((given env f).bind f.read).getD (usual env f) := by
  -- Fields of text are overridden by what is given as it stands, so there the two sides only agree case by case.
  cases f with
  | listensOn => rw [given_listensOn]; rfl
  | url =>
    rw [given_of_singleton rfl]
    show (env "DATABASE_URL" <|> (ofProfile (profileOf (env "APP_ENV"))).store.url) = _
    cases env "DATABASE_URL" <;> rfl
  | secret =>
    rw [given_of_singleton rfl]
    show (env "JWT_SECRET").getD _ = _
    cases env "JWT_SECRET" <;> rfl
  | emailDomain =>
    rw [given_of_singleton rfl]
    show ((env "AUTH_EMAIL_DOMAIN").map _).getD _ = _
    cases env "AUTH_EMAIL_DOMAIN" <;> rfl
  | _ => rw [given_of_singleton rfl]; rfl

theorem findSome?_congr {names : List String} (same : ∀ w ∈ names, env w = env' w) :
    names.findSome? env = names.findSome? env' := by
  rw [← List.head?_filterMap, ← List.head?_filterMap, List.filterMap_congr same]

/-- A field depends on its own variables and the one of the profile. -/
theorem value_congr (profile : env "APP_ENV" = env' "APP_ENV") (same : ∀ w ∈ f.names, env w = env' w) :
    (ofEnvironment env).value f = (ofEnvironment env').value f := by
  rw [value_ofEnvironment, value_ofEnvironment, given, given, findSome?_congr same, usual, usual, profile]

/-- The settings depend on nothing but the variables that the service knows. -/
theorem ofEnvironment_congr (same : ∀ w ∈ variableNames, env w = env' w) : ofEnvironment env = ofEnvironment env' := by
  have profile : env "APP_ENV" = env' "APP_ENV" := same _ (mem_variableNames_iff.2 (Or.inl rfl))
  refine eq_of_values ?_ fun f => value_congr profile fun w named => ?_
  · rw [profile_ofEnvironment, profile_ofEnvironment, profile]
  · exact same w (mem_variableNames_iff.2 (Or.inr ⟨f, named⟩))

/-- A variable changes no field but its own. -/
theorem alikeBut_of_agree (named : v ∈ f.names) (agree : ∀ w, w ≠ v → env w = env' w) :
    AlikeBut f (ofEnvironment env) (ofEnvironment env') := by
  have profile : env "APP_ENV" = env' "APP_ENV" := agree _ (Field.ne_profile named).symm
  refine ⟨?_, fun g other => value_congr profile fun w owned => agree w ?_⟩
  · rw [profile_ofEnvironment, profile_ofEnvironment, profile]
  · rintro rfl
    exact other (Field.eq_of_mem owned named)

section
variable {before after : List String}

/-- What a variable is set to counts after what is before it and before what is after it. -/
theorem given_update (split : f.names = before ++ v :: after) (setting : Option String) :
    given (Function.update env v setting) f = (before.findSome? env).or (setting.or (after.findSome? env)) := by
  have nodup := f.nodup_names
  rw [split, List.nodup_middle, List.nodup_cons, List.mem_append] at nodup
  have elsewhere {names : List String} (other : v ∉ names) :
      names.findSome? (Function.update env v setting) = names.findSome? env :=
    findSome?_congr fun w member => Function.update_of_ne (ne_of_mem_of_not_mem member other) ..
  rw [given, split, List.findSome?_append, List.findSome?_cons, Function.update_self,
    elsewhere fun h => nodup.1 (Or.inl h), elsewhere fun h => nodup.1 (Or.inr h)]
  cases setting <;> rfl

/-- A field after one of its variables has changed: the variables before it go first, and those after it last. -/
theorem value_update (split : f.names = before ++ v :: after) (setting : Option String) :
    (ofEnvironment (Function.update env v setting)).value f =
      (((before.findSome? env).or (setting.or (after.findSome? env))).bind f.read).getD (usual env f) := by
  have profile : usual (Function.update env v setting) f = usual env f := by
    rw [usual, Function.update_of_ne (Field.ne_profile (Field.mem_of_split split)).symm, usual]
  rw [value_ofEnvironment, given_update split, profile]

/-- A variable that does not read is as if it were not set, unless it keeps another from being asked that gives
something. -/
theorem misread_eq_iff (split : f.names = before ++ v :: after) {text : String} (misread : f.read text = none) :
    ofEnvironment (Function.update env v (some text)) = ofEnvironment (Function.update env v none) ↔
      (before.findSome? env = none → ∀ n, (after.findSome? env).bind f.read = some n → n = usual env f) := by
  have alike : AlikeBut f (ofEnvironment (Function.update env v (some text)))
      (ofEnvironment (Function.update env v none)) :=
    alikeBut_of_agree (Field.mem_of_split split) fun w other => by
      rw [Function.update_of_ne other, Function.update_of_ne other]
  -- Only what stands before the variable counts with it or without it; what stands after counts without it alone.
  rw [alike.eq_iff, value_update split, value_update split]
  cases before.findSome? env with
  | some first => exact iff_of_true rfl nofun
  | none =>
    show ((f.read text).getD _ = ((after.findSome? env).bind f.read).getD _) ↔ _
    rw [misread]
    cases (after.findSome? env).bind f.read with
    | none => exact iff_of_true rfl nofun
    | some n => exact ⟨fun same _ m here => Option.some.inj here ▸ same.symm, fun same => (same rfl n rfl).symm⟩

end

theorem place_in_singleton {w : String} {before after : List String} (split : [w] = before ++ v :: after) :
    before = [] ∧ w = v ∧ after = [] := by
  obtain ⟨nothing, alone⟩ | ⟨-, absent⟩ := List.singleton_eq_append_iff.1 split
  · obtain ⟨same, rest⟩ := List.cons.inj alone
    exact ⟨nothing, same.symm, rest⟩
  · exact absurd absent (List.cons_ne_nil v after)

/-- Only the number under which the service listens has more than one variable. -/
theorem Field.split_cases {before after : List String} (split : f.names = before ++ v :: after) :
    (before = [] ∧ after = [] ∧ v ≠ "STOREX_PORT" ∧ v ≠ "PORT") ∨
      (f = listensOn ∧ v = "STOREX_PORT" ∧ before = [] ∧ after = ["PORT"]) ∨
      (f = listensOn ∧ v = "PORT" ∧ before = ["STOREX_PORT"] ∧ after = []) := by
  by_cases listens : f = listensOn
  · subst listens
    cases before with
    | nil =>
      obtain ⟨same, rest⟩ := List.cons.inj split
      exact Or.inr (Or.inl ⟨rfl, same.symm, rfl, rest.symm⟩)
    | cons first before =>
      obtain ⟨same, rest⟩ := List.cons.inj split
      obtain ⟨nothing, second, last⟩ := place_in_singleton rest
      exact Or.inr (Or.inr ⟨rfl, second.symm, by rw [nothing, same], last⟩)
  · have named := mem_of_split split
    have other {w : String} (listen : w ∈ listensOn.names) : v ≠ w := by
      rintro rfl
      exact listens (eq_of_mem named listen)
    rw [names_eq_singleton listens named] at split
    obtain ⟨nothing, -, last⟩ := place_in_singleton split
    exact Or.inl ⟨nothing, last, other List.mem_cons_self, other (List.mem_cons_of_mem _ List.mem_cons_self)⟩

theorem usual_listensOn (env : Environment) : usual env .listensOn = (8080 : UInt16) := by
  unfold usual
  cases profileOf (env "APP_ENV") <;> rfl

/-- A variable changes no field but its own. If it does not read, it is as if it were not set, but for one case: the
first variable of the number under which the service listens keeps the second one from being asked. If it reads, its
field takes what it reads, but for the second variable where the first one is set. -/
theorem overrides_confined (env : Environment) {v : String} (known : v ∈ variableNames) (overrides : v ≠ "APP_ENV") :
    ∃ f : Field, v ∈ f.names ∧
      (∀ setting, AlikeBut f (ofEnvironment (Function.update env v setting)) (ofEnvironment env)) ∧
      (∀ text, f.read text = none →
        (ofEnvironment (Function.update env v (some text)) = ofEnvironment (Function.update env v none) ↔
          (v = "STOREX_PORT" → ∀ n, (env "PORT").bind uint16? = some n → n = 8080))) ∧
      ∀ text value, f.read text = some value → (v = "PORT" → env "STOREX_PORT" = none) →
        (ofEnvironment (Function.update env v (some text))).value f = value := by
  obtain ⟨f, named⟩ := (mem_variableNames_iff.1 known).resolve_left overrides
  obtain ⟨before, after, split⟩ := List.append_of_mem named
  refine ⟨f, named, fun setting => alikeBut_of_agree named fun w other => Function.update_of_ne other .., ?_, ?_⟩
  · intro text misread
    rw [misread_eq_iff split misread]
    obtain ⟨rfl, rfl, first, -⟩ | ⟨rfl, rfl, rfl, rfl⟩ | ⟨rfl, rfl, rfl, rfl⟩ := Field.split_cases split
    · exact iff_of_true (fun _ => nofun) fun same => absurd same first
    · rw [usual_listensOn, List.findSome?_singleton]
      exact ⟨fun same _ => same rfl, fun same _ => same rfl⟩
    · exact iff_of_true (fun _ => nofun) fun same => absurd same (by decide)
  · intro text value reads free
    have unset : before.findSome? env = none := by
      obtain ⟨rfl, -⟩ | ⟨-, -, rfl, -⟩ | ⟨-, second, rfl, -⟩ := Field.split_cases split
      · rfl
      · rfl
      · rw [List.findSome?_singleton, free second]
    rw [value_update split, unset]
    show (f.read text).getD _ = value
    rw [reads]
    rfl

/-- A production environment in which only the second variable of the two tells where the service listens. -/
def production9090 : Environment := fun name =>
  if name = "APP_ENV" then some "production" else if name = "PORT" then some "9090" else none

/-- A misspelt number in the first variable does away with the good one in the second. -/
theorem misspelt_listener_breaks : ¬∀ (env : Environment) (f : Field) (v text : String), v ∈ f.names →
    f.read text = none →
    ofEnvironment (Function.update env v (some text)) = ofEnvironment (Function.update env v none) := by
  intro alike
  have same := alike production9090 .listensOn "STOREX_PORT" "80a" (by decide) (by decide)
  have numbers : (8080 : UInt16) = 9090 := congrArg (·.api.listensOn) same
  exact absurd numbers (by decide)

/-- A misspelt number of rows is as none, and a good one changes no more than the number of rows. -/
theorem fifty_confined : "API_MAX_PAGE_SIZE" ∈ variableNames ∧ "API_MAX_PAGE_SIZE" ≠ "APP_ENV" ∧
    Text.int64? "fifty" = none ∧ Text.int64? "50" = some 50 ∧
    ofEnvironment (Function.update production9090 "API_MAX_PAGE_SIZE" (some "fifty")) =
      ofEnvironment (Function.update production9090 "API_MAX_PAGE_SIZE" none) ∧
    AlikeBut .maxPageSize (ofEnvironment (Function.update production9090 "API_MAX_PAGE_SIZE" (some "50")))
      (ofEnvironment production9090) ∧
    (ofEnvironment (Function.update production9090 "API_MAX_PAGE_SIZE" (some "50"))).api.maxPageSize = 50 := by
  have known : "API_MAX_PAGE_SIZE" ∈ variableNames := by decide
  have overrides : "API_MAX_PAGE_SIZE" ≠ "APP_ENV" := by decide
  have misspelt : Text.int64? "fifty" = none := by decide
  have spelt : Text.int64? "50" = some 50 := by decide
  obtain ⟨f, named, confined, misread, taken⟩ := overrides_confined production9090 known overrides
  obtain rfl : f = .maxPageSize := Field.eq_of_mem named (by decide)
  have alike := (misread "fifty" misspelt).2 (by decide)
  exact ⟨known, overrides, misspelt, spelt, alike, confined _, taken "50" _ spelt (by decide)⟩

end AssetRegistry.Settings
