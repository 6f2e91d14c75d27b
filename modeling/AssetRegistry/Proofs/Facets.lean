import AssetRegistry.Proofs.Parameters
import AssetRegistry.Proofs.Targets
import AssetRegistry.Web.App
import Mathlib.Data.List.Forall2

namespace AssetRegistry.Web

open Store Query
open Vocabulary (labels)

/-- A facet takes one text as it is, one label, or any number of labels. -/
inductive Facet.Reading where
  | term
  | one (known : List String)
  | many (known : List String)

/-- A parameter of a list, how it is read, and the clause that it makes around the placeholder of its argument. -/
structure Facet where
  name : String
  reading : Facet.Reading
  clause : (slot : String) → String

namespace Facet

/-- All that is given are labels which the facet knows. -/
def Admits (f : Facet) (ps : Params) : Prop :=
  match f.reading with
  | .term => True
  | .one known => ∀ s ∈ (ps.given f.name).head?, s ∈ known
  | .many known => ∀ s ∈ ps.pieces f.name, s ∈ known

instance (f : Facet) (ps : Params) : Decidable (f.Admits ps) :=
  match f with
  | ⟨_, .term, _⟩ => inferInstanceAs (Decidable True)
  | ⟨name, .one known, _⟩ => inferInstanceAs (Decidable (∀ s ∈ (ps.given name).head?, s ∈ known))
  | ⟨name, .many known, _⟩ => inferInstanceAs (Decidable (∀ s ∈ ps.pieces name, s ∈ known))

/-- What is given for the facet, as an argument of a statement. -/
def argument? (ps : Params) (f : Facet) : Option Value :=
  match f.reading with
  | .term => (ps.given f.name).head?.map fun term => .text (likePattern term)
  | .one _ => (ps.given f.name).head?.map .text
  | .many _ => if ps.pieces f.name = [] then none else some (.texts (ps.pieces f.name))

/-- The facet has an argument. -/
def isGiven (ps : Params) (f : Facet) : Bool := (f.argument? ps).isSome

/-- The clauses of some facets, whose arguments follow the first `start` ones. -/
def clauses (start : Nat) (fs : List Facet) : List String :=
  fs.mapIdx fun i f => f.clause (placeholder (start + i + 1))

/-- The conditions that the facet makes of the parameters: none, or one with the facet's clause and argument. -/
inductive Forms (f : Facet) (ps : Params) : List Condition → Prop
  | absent : f.argument? ps = none → Forms f ps []
  | given {c : Condition} {p : Param} : f.argument? ps = some (Statement.ofParam p) → c.param? = some p →
      (∀ slot, c.clause slot = .ok (f.clause slot)) → Forms f ps [c]

/-- A term that one of three columns contains. -/
def search (first second third : String) : Facet where
  name := "search"
  reading := .term
  clause slot :=
    "(" ++ first ++ " ILIKE " ++ slot ++ " OR " ++ second ++ " ILIKE " ++ slot ++ " OR " ++
      third ++ " ILIKE " ++ slot ++ ")"

/-- A label that a column shows. -/
def one (α : Type) [Vocabulary α] (name column : String) : Facet where
  name
  reading := .one (labels α)
  clause slot := column ++ " = " ++ slot

/-- Labels one of which a column shows; what stands before the column and after the labels may make more of it. -/
def many (α : Type) [Vocabulary α] (name column after : String) : Facet where
  name
  reading := .many (labels α)
  clause slot := column ++ " = ANY(" ++ slot ++ (")" ++ after)

variable {f : Facet} {ps : Params}

/-- The search makes its clause from the given term. -/
theorem forms_search (first second third : String) :
    (search first second third).Forms ps (Condition.ofSearch [first, second, third] (ps.text? "search")) := by
  rw [ps.text?_eq]
  cases given : (ps.given "search").head? with
  | none => exact .absent (by rw [argument?, search, given]; rfl)
  | some term =>
    have shown := List.mem_of_head? given
    have made : Condition.ofSearch [first, second, third] (some term) = [.search [first, second, third] term] := by
      simp [Condition.ofSearch, Text.trim_of_mem_shown shown, Text.ne_empty_of_mem_shown shown]
    rw [made]
    refine .given (p := .text (likePattern term)) (by rw [argument?, search, given]; rfl) rfl fun slot => ?_
    simp [Condition.clause, search, String.append_assoc]

theorem forms_one {α : Type} [Vocabulary α] {name column : String} {wanted : Option α}
    (labelled : wanted.map label = (ps.given name).head?) :
    (one α name column).Forms ps (Assets.labelCondition column wanted) := by
  have argument : (one α name column).argument? ps = (wanted.map label).map .text := by rw [labelled]; rfl
  cases wanted with
  | none => exact .absent argument
  | some a => exact .given (p := .text (label a)) argument rfl fun slot => rfl

theorem one_admitted {α : Type} [Vocabulary α] {name column : String} (admitted : (one α name column).Admits ps) :
    ∃ wanted : Option α, ps.one? name = .ok wanted ∧
      (one α name column).Forms ps (Assets.labelCondition column wanted) := by
  obtain ⟨wanted, found, labelled⟩ := Params.one?_known admitted
  exact ⟨wanted, found, forms_one labelled⟩

theorem one_refused {α : Type} [Vocabulary α] {name column : String} (refused : ¬(one α name column).Admits ps) :
    Bad (ps.one? name : Except ApiError (Option α)) := Params.one?_unknown refused

theorem argument_many {α : Type} [Vocabulary α] {name : String} {wanted : List α}
    (labelled : wanted.map label = ps.pieces name) (column after : String) : (many α name column after).argument? ps =
      if wanted.isEmpty then none else some (Statement.ofParam (.texts (wanted.map label))) := by
  show (if ps.pieces name = [] then none else some (Value.texts (ps.pieces name))) = _
  rw [← labelled]
  cases wanted <;> rfl

/-- A facet of many labels makes its clause from all of them. -/
theorem forms_anyOf {α : Type} [Vocabulary α] {name column : String} {wanted : List α}
    (labelled : wanted.map label = ps.pieces name) :
    (many α name column "").Forms ps (Condition.ofAnyOf column (wanted.map label)) := by
  have argument := argument_many labelled column ""
  cases wanted with
  | nil => exact .absent argument
  | cons a rest => exact .given argument rfl fun slot => rfl

theorem forms_template {α : Type} [Vocabulary α] {name sql column after : String} {wanted : List α}
    (labelled : wanted.map label = ps.pieces name)
    (pieces : templatePieces sql.toList = [(column ++ " = ANY(").toList, (")" ++ after).toList]) :
    (many α name column after).Forms ps (Users.labelsCondition sql wanted) := by
  have argument := argument_many labelled column after
  cases wanted with
  | nil => exact .absent argument
  | cons a rest =>
    refine .given argument rfl fun slot => ?_
    simp only [Condition.clause, pieces, String.ofList_toList]
    rfl

theorem many_admitted {α : Type} [Vocabulary α] {name column after : String}
    (admitted : (many α name column after).Admits ps) :
    ∃ wanted : List α, ps.many name = .ok wanted ∧ wanted.map label = ps.pieces name := Params.many_known admitted

theorem many_refused {α : Type} [Vocabulary α] {name column after : String}
    (refused : ¬(many α name column after).Admits ps) :
    Bad (ps.many name : Except ApiError (List α)) := Params.many_unknown refused

/-- What some facets make has the clauses and the arguments of those that are given. -/
theorem clauses_of_forms {fs : List Facet} {css : List (List Condition)}
    (forms : List.Forall₂ (fun f cs => f.Forms ps cs) fs css) (start : Nat) :
    ∃ params, Condition.clauses start css.flatten = .ok (clauses start (fs.filter (isGiven ps)), params) ∧
      params.map Statement.ofParam = fs.filterMap (argument? ps) := by
  induction forms generalizing start with
  | nil => exact ⟨[], rfl, rfl⟩
  | @cons f cs fs css form _ ih =>
    cases form with
    | absent nothing =>
      have left : isGiven ps f = false := by rw [isGiven, nothing]; rfl
      rw [List.filter_cons_of_neg (by simp [left]), List.filterMap_cons_none nothing]
      exact ih start
    | @given c p something bound spells =>
      obtain ⟨params, others, arguments⟩ := ih (start + 1)
      have kept : isGiven ps f = true := by rw [isGiven, something]; rfl
      refine ⟨p :: params, ?_, ?_⟩
      · show Condition.clauses start (c :: css.flatten) = _
        have next : clauses start (f :: fs.filter (isGiven ps)) =
            f.clause (placeholder (start + 1)) :: clauses (start + 1) (fs.filter (isGiven ps)) := by
          simp only [clauses, List.mapIdx_cons, Nat.add_assoc, Nat.add_comm 1]
        rw [List.filter_cons_of_pos kept, next, Condition.clauses, spells, bound]
        show (Condition.clauses (start + 1) css.flatten >>= _) = _
        rw [others]
        rfl
      · rw [List.filterMap_cons_some something, List.map_cons, arguments]

/-- Each facet that is given has one argument. -/
theorem length_arguments (fs : List Facet) :
    (fs.filterMap (argument? ps)).length = (fs.filter (isGiven ps)).length := by
  rw [List.length_filterMap_eq_countP, List.countP_eq_length_filter]
  rfl

end Facet

/-- The lists that can be asked for. -/
inductive Listing where
  | assets
  | users

namespace Listing

/-- Where the list is found. -/
def path : Listing → List Char
  | assets => "/api/assets".toList
  | users => "/api/users".toList

/-- The roles that may have the list. -/
def roles : Listing → List Role
  | assets => [.admin, .assetManager]
  | users => [.admin, .employeeManager]

/-- The fixed part of the query. -/
def base : Listing → String
  | assets => assetListBase
  | users => userListBase

/-- What is archived is not listed. -/
def live : Listing → String
  | assets => "a.archived_at IS NULL"
  | users => "u.archived_at IS NULL"

/-- The facets in their fixed order. -/
def facets : Listing → List Facet
  | assets =>
    [.search "b.name" "m.name" "a.serial_no",
      .one AssetType "asset_type" "m.asset_type::text",
      .one AssetStatus "status" "COALESCE(cs.status, 'available')::text",
      .one Owner "owned_by" "a.owned_by::text"]
  | users =>
    [.search "u.name" "u.email" "u.phone",
      .many UserType "user_type" "u.user_type::text" "",
      .many Role "role" "EXISTS (SELECT 1 FROM user_roles fr WHERE fr.user_id = u.id AND fr.role::text" ")",
      .many AssetStatus "asset_status"
        ("EXISTS (SELECT 1 FROM asset_status fs " ++
          "WHERE fs.assigned_to_user = u.id AND fs.archived_at IS NULL AND fs.status::text")
        ")"]

/-- How the rows are grouped and put in order. -/
def arrangement : Listing → List String
  | assets => ["ORDER BY a.created_at DESC, a.id DESC"]
  | users => ["GROUP BY u.id", "ORDER BY u.name ASC, u.id ASC"]

/-- The clause of a window whose arguments follow the first `count` ones. -/
def windowText (count : Nat) : String := "LIMIT " ++ placeholder (count + 1) ++ " OFFSET " ++ placeholder (count + 2)

/-- The statement for a list, with some clauses besides the one that all rows meet, up to its window. -/
def front (l : Listing) (clauses : List String) : String :=
  String.intercalate " " (l.base :: ("WHERE " ++ String.intercalate " AND " (l.live :: clauses)) :: l.arrangement)

/-- The statement for a list by some facets. -/
def text (l : Listing) (fs : List Facet) : String := l.front (Facet.clauses 0 fs) ++ " " ++ windowText fs.length

/-- The query of a list with some conditions. -/
def select (page : Page) (conditions : List Condition) : Listing → Select
  | assets =>
    { base := assetListBase, conditions, order := [("a.created_at", .descending), ("a.id", .descending)]
      page := some page }
  | users =>
    { base := userListBase, conditions, groupBy := some "u.id", order := [("u.name", .ascending), ("u.id", .ascending)]
      page := some page }

/-- The query that the parameters ask for. -/
def query? (ps : Params) (page : Page) : Listing → Except ApiError Select
  | assets => (assetFilter ps).map fun filter => Assets.listQuery filter page
  | users => (userFilter ps).map fun filter => Users.listQuery filter page

variable {l : Listing} {ps : Params} {page : Page}

theorem conditions_assets (filter : AssetFilter) : Assets.listConditions filter = .raw assets.live ::
    [Condition.ofSearch Assets.searchColumns filter.search,
      Assets.labelCondition "m.asset_type::text" filter.assetType,
      Assets.labelCondition "COALESCE(cs.status, 'available')::text" filter.status,
      Assets.labelCondition "a.owned_by::text" filter.ownedBy].flatten := by
  simp [Assets.listConditions, live]

/-- Parameters that every facet admits make a query whose conditions are those of the facets. -/
theorem assets_admitted (admitted : ∀ f ∈ facets assets, f.Admits ps) :
    ∃ css, assets.query? ps page = .ok (assets.select page (.raw assets.live :: css.flatten)) ∧
      List.Forall₂ (fun f cs => f.Forms ps cs) assets.facets css := by
  simp only [facets, List.forall_mem_cons] at admitted
  obtain ⟨-, typed, status, owned, -⟩ := admitted
  obtain ⟨type, findsType, formsType⟩ := Facet.one_admitted typed
  obtain ⟨state, findsStatus, formsStatus⟩ := Facet.one_admitted status
  obtain ⟨owner, findsOwner, formsOwner⟩ := Facet.one_admitted owned
  have filters : assetFilter ps =
      .ok { search := ps.text? "search", assetType := type, status := state, ownedBy := owner } := by
    unfold assetFilter
    rw [findsType, findsStatus, findsOwner]
    rfl
  refine ⟨_, ?_, .cons (Facet.forms_search _ _ _) (.cons formsType (.cons formsStatus (.cons formsOwner .nil)))⟩
  unfold query? Assets.listQuery
  rw [filters]
  simp only [Except.map, conditions_assets]
  rfl

theorem assets_refused (refused : ¬∀ f ∈ facets assets, f.Admits ps) : Bad (assets.query? ps page) := by
  simp only [facets, List.forall_mem_cons] at refused
  have bad : Bad (assetFilter ps) :=
    bad_bind (fun typed => (Facet.one_admitted typed).imp fun _ => And.left) Facet.one_refused fun typed _ =>
      bad_bind (fun status => (Facet.one_admitted status).imp fun _ => And.left) Facet.one_refused fun status _ =>
        bad_bind (fun owned => (Facet.one_admitted owned).imp fun _ => And.left) Facet.one_refused fun owned _ =>
          absurd ⟨trivial, typed, status, owned, nofun⟩ refused
  exact bad.bind _

theorem conditions_users (filter : UserFilter) : Users.listConditions filter = .raw users.live ::
    [Condition.ofSearch Users.searchColumns filter.search,
      Condition.ofAnyOf "u.user_type::text" (filter.userTypes.map label),
      Users.labelsCondition Users.hasRole filter.roles,
      Users.labelsCondition Users.hasLiveStatus filter.assetStatuses].flatten := by
  simp [Users.listConditions, live]

theorem pieces_hasRole : templatePieces Users.hasRole.toList =
    [("EXISTS (SELECT 1 FROM user_roles fr WHERE fr.user_id = u.id AND fr.role::text" ++ " = ANY(").toList,
      (")" ++ ")").toList] := by decide +kernel

theorem pieces_hasLiveStatus : templatePieces Users.hasLiveStatus.toList =
    [("EXISTS (SELECT 1 FROM asset_status fs " ++
        "WHERE fs.assigned_to_user = u.id AND fs.archived_at IS NULL AND fs.status::text" ++ " = ANY(").toList,
      (")" ++ ")").toList] := by decide +kernel

theorem users_admitted (admitted : ∀ f ∈ facets users, f.Admits ps) :
    ∃ css, users.query? ps page = .ok (users.select page (.raw users.live :: css.flatten)) ∧
      List.Forall₂ (fun f cs => f.Forms ps cs) users.facets css := by
  simp only [facets, List.forall_mem_cons] at admitted
  obtain ⟨-, typed, held, status, -⟩ := admitted
  obtain ⟨types, findsTypes, typeLabels⟩ := Facet.many_admitted typed
  obtain ⟨roles, findsRoles, roleLabels⟩ := Facet.many_admitted held
  obtain ⟨states, findsStates, statusLabels⟩ := Facet.many_admitted status
  have filters : userFilter ps =
      .ok { search := ps.text? "search", userTypes := types, roles, assetStatuses := states } := by
    unfold userFilter
    rw [findsTypes, findsRoles, findsStates]
    rfl
  refine ⟨_, ?_, .cons (Facet.forms_search _ _ _) (.cons (Facet.forms_anyOf typeLabels)
    (.cons (Facet.forms_template roleLabels pieces_hasRole)
      (.cons (Facet.forms_template statusLabels pieces_hasLiveStatus) .nil)))⟩
  unfold query? Users.listQuery
  rw [filters]
  simp only [Except.map, conditions_users]
  rfl

theorem users_refused (refused : ¬∀ f ∈ facets users, f.Admits ps) : Bad (users.query? ps page) := by
  simp only [facets, List.forall_mem_cons] at refused
  have bad : Bad (userFilter ps) :=
    bad_bind (fun typed => (Facet.many_admitted typed).imp fun _ => And.left) Facet.many_refused fun typed _ =>
      bad_bind (fun held => (Facet.many_admitted held).imp fun _ => And.left) Facet.many_refused fun held _ =>
        bad_bind (fun status => (Facet.many_admitted status).imp fun _ => And.left) Facet.many_refused fun status _ =>
          absurd ⟨trivial, typed, held, status, nofun⟩ refused
  exact bad.bind _

/-- Where all is admitted, the query has the conditions that the facets make. -/
theorem query_admitted (admitted : ∀ f ∈ l.facets, f.Admits ps) :
    ∃ css, l.query? ps page = .ok (l.select page (.raw l.live :: css.flatten)) ∧
      List.Forall₂ (fun f cs => f.Forms ps cs) l.facets css := by
  cases l with
  | assets => exact assets_admitted admitted
  | users => exact users_admitted admitted

theorem query_refused (refused : ¬∀ f ∈ l.facets, f.Admits ps) : Bad (l.query? ps page) := by
  cases l with
  | assets => exact assets_refused refused
  | users => exact users_refused refused

theorem trim_base (l : Listing) : Text.trim l.base = l.base := by
  cases l with
  | assets =>
    have last : assetListBase.toList.getLast? = some 'r' := last_append (by decide)
    exact (Text.tidy_of_ends head_assetListBase last (by decide) (by decide)).trim
  | users =>
    have last : userListBase.toList.getLast? = some 'd' := last_append (by decide)
    exact (Text.tidy_of_ends head_userListBase last (by decide) (by decide)).trim

theorem base_ne_empty (l : Listing) : l.base ≠ "" := by
  have first : l.base.toList.head? = some 'S' := by
    cases l with
    | assets => exact head_assetListBase
    | users => exact head_userListBase
  rintro empty
  rw [empty] at first
  cases first

/-- A window without rows has no query. -/
theorem renders_narrow (narrow : page.limit.toInt < 1) (cs : List Condition) :
    (l.select page cs).render = .error (.invalidLimit page.limit) := by
  have short : page.limit < 1 := by rw [Int64.lt_iff_toInt_lt, Int64.toInt_one]; exact narrow
  have checked : checkPage page = .error (.invalidLimit page.limit) := if_pos short
  cases l
  all_goals
    show (checkPage page >>= fun _ => _) = _
    rw [checked]
    rfl

/-- A query with a good page is rendered part by part. -/
theorem render_of_parts {q : Select} {conditions : String} {params : List Param} {parts : List String}
    (paged : q.page = some page) (checked : checkPage page = .ok ())
    (joined : Condition.render 0 q.conditions = .ok (conditions, params))
    (kept : [Text.trim q.base, "WHERE " ++ conditions, q.groupBy.elim "" ("GROUP BY " ++ ·), q.order.render,
      windowText params.length].filter (· ≠ "") = parts) :
    q.render = .ok ⟨String.intercalate " " parts, params ++ [.number page.limit, .number page.offset]⟩ := by
  rw [← kept, ← Text.filter_isEmpty]
  unfold Select.render
  rw [paged]
  show (checkPage page >>= fun _ => Condition.render 0 q.conditions >>= _) = _
  rw [checked, joined]
  rfl

theorem conditions_select (l : Listing) (page : Page) (cs : List Condition) : (l.select page cs).conditions = cs := by
  cases l <;> rfl

theorem page_select (l : Listing) (page : Page) (cs : List Condition) : (l.select page cs).page = some page := by
  cases l <;> rfl

/-- The parts of a list's statement that are there. -/
theorem parts_select (l : Listing) (page : Page) (cs : List Condition) (conditions : String) (count : Nat) :
    [Text.trim (l.select page cs).base, "WHERE " ++ conditions, (l.select page cs).groupBy.elim "" ("GROUP BY " ++ ·),
      (l.select page cs).order.render, windowText count].filter (· ≠ "") =
        l.base :: ("WHERE " ++ conditions) :: (l.arrangement ++ [windowText count]) := by
  have based : (l.select page cs).base = l.base := by cases l <;> rfl
  have solid := l.base_ne_empty
  rw [based, trim_base]
  cases l with
  | assets => simp [select, Order.render, Direction.sql, arrangement, windowText, solid]
  | users => simp [select, Order.render, Direction.sql, arrangement, windowText, solid]

/-- A page with rows is rendered as the text of the list, with the window behind the conditions. -/
theorem renders_wide {cs : List Condition} {texts : List String} {params : List Param} (rows : 1 ≤ page.limit.toInt)
    (begins : 0 ≤ page.offset.toInt) (made : Condition.clauses 0 cs = .ok (texts, params)) :
    (l.select page (.raw l.live :: cs)).render =
      .ok ⟨l.front texts ++ " " ++ windowText params.length, params ++ [.number page.limit, .number page.offset]⟩ := by
  have checked : checkPage page = .ok () := by
    have wide : ¬page.limit < 1 := by rw [Int64.lt_iff_toInt_lt, Int64.toInt_one]; omega
    have inside : ¬page.offset < 0 := by rw [Int64.lt_iff_toInt_lt, Int64.toInt_zero]; omega
    rw [checkPage, if_neg wide, if_neg inside]
  have joined : Condition.render 0 (.raw l.live :: cs) =
      .ok (String.intercalate " AND " (l.live :: texts), params) := by
    unfold Condition.render Condition.clauses
    show ((Condition.clauses 0 cs >>= _) >>= _) = _
    rw [made]
    rfl
  rw [← conditions_select l page (.raw l.live :: cs)] at joined
  have parts := l.parts_select page (.raw l.live :: cs) (String.intercalate " AND " (l.live :: texts)) params.length
  rw [render_of_parts (page_select _ _ _) checked joined parts]
  rw [← List.cons_append, ← List.cons_append,
    String.intercalate_append_of_ne_nil (List.cons_ne_nil _ _) (List.cons_ne_nil _ _), String.intercalate_singleton]
  rfl

/-- The statement that is made of the parameters where all is admitted and the window is a good one. -/
theorem rendered_admitted {css : List (List Condition)}
    (made : List.Forall₂ (fun f cs => f.Forms ps cs) l.facets css) (rows : 1 ≤ page.limit.toInt)
    (begins : 0 ≤ page.offset.toInt) :
    ∃ rendered, (l.select page (.raw l.live :: css.flatten)).render = .ok rendered ∧
      rendered.text = l.text (l.facets.filter (Facet.isGiven ps)) ∧
      rendered.params.map Statement.ofParam =
        l.facets.filterMap (Facet.argument? ps) ++ [.integer page.limit.toInt, .integer page.offset.toInt] := by
  obtain ⟨params, clauses, arguments⟩ := Facet.clauses_of_forms made 0
  have count : params.length = (l.facets.filter (Facet.isGiven ps)).length := by
    rw [← Facet.length_arguments, ← arguments, List.length_map]
  refine ⟨_, renders_wide rows begins clauses, ?_, ?_⟩
  · show _ = l.front _ ++ " " ++ windowText _
    rw [count]
  · rw [List.map_append, arguments]
    rfl

end Listing

end AssetRegistry.Web
