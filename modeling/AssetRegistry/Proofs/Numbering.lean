import AssetRegistry.Proofs.Overlays
import AssetRegistry.Proofs.Repertoire
import Mathlib.Data.List.TakeWhile

namespace AssetRegistry.Store

/-- The numbers behind the dollar signs of a text, from left to right; where no digit follows there is none. -/
def slots : List Char → List (Option Nat)
  | [] => []
  | c :: cs => if c = '$' then Text.digits? (cs.takeWhile Char.isDigit) :: slots cs else slots cs

theorem slots_of_absent {cs : List Char} (absent : '$' ∉ cs) : slots cs = [] := by
  induction cs with
  | nil => rfl
  | cons c cs ih =>
    obtain ⟨other, absent⟩ := List.ne_and_not_mem_of_not_mem_cons absent
    rw [slots, if_neg (Ne.symm other), ih absent]

theorem takeWhile_append_of_head {xs ys : List Char} (apart : ys.head?.all (!·.isDigit)) :
    (xs ++ ys).takeWhile Char.isDigit = xs.takeWhile Char.isDigit := by
  induction xs with
  | nil =>
    cases ys with
    | nil => rfl
    | cons y ys =>
      have other : ¬y.isDigit := by simpa using apart
      exact List.takeWhile_cons_of_neg other
  | cons x xs ih => rw [List.cons_append, List.takeWhile_cons, List.takeWhile_cons, ih]

/-- A text may be cut wherever no digit follows. -/
theorem slots_append {xs ys : List Char} (apart : ys.head?.all (!·.isDigit)) :
    slots (xs ++ ys) = slots xs ++ slots ys := by
  induction xs with
  | nil => rfl
  | cons x xs ih =>
    rw [List.cons_append, slots, slots, ih, takeWhile_append_of_head apart]
    split <;> rfl

theorem slots_append_of_absent {xs : List Char} (absent : '$' ∉ xs) (ys : List Char) : slots (xs ++ ys) = slots ys := by
  induction xs with
  | nil => rfl
  | cons x xs ih =>
    obtain ⟨other, absent⟩ := List.ne_and_not_mem_of_not_mem_cons absent
    rw [List.cons_append, slots, if_neg (Ne.symm other), ih absent]

/-- A text that does not begin with a digit leaves the placeholder before it as it is. -/
theorem slots_before_text {t : String} (apart : t.toList.head?.all (!·.isDigit)) (s : String) :
    slots (s ++ t).toList = slots s.toList ++ slots t.toList := by
  rw [String.toList_append, slots_append apart]

theorem slots_after_text {s : String} (absent : '$' ∉ s.toList) (t : String) :
    slots (s ++ t).toList = slots t.toList := by
  rw [String.toList_append, slots_append_of_absent absent]

theorem slots_placeholder (number : Nat) : slots (Query.placeholder number).toList = [some number] := by
  have digits : ∀ c ∈ Nat.toDigits 10 number, c.isDigit := fun c member =>
    Nat.isDigit_of_mem_toDigits (by decide) (by decide) member
  have absent : '$' ∉ Nat.toDigits 10 number := fun member => by cases digits _ member
  rw [toList_placeholder, slots, if_pos rfl, List.takeWhile_eq_self_iff.2 digits, Text.digits?_toDigits,
    slots_of_absent absent]

/-- The placeholders of a list of texts are theirs one after the other. -/
theorem slots_intercalate {s : String} (absent : '$' ∉ s.toList) (apart : s.toList.head?.any (!·.isDigit))
    (texts : List String) : slots (String.intercalate s texts).toList = texts.flatMap fun text => slots text.toList := by
  induction texts with
  | nil => rfl
  | cons text rest ih =>
    cases rest with
    | nil => simp
    | cons next rest =>
      have gap : (s ++ String.intercalate s (next :: rest)).toList.head?.all (!·.isDigit) := by
        rw [String.toList_append, List.head?_append]
        cases first : s.toList.head? with
        | none => rw [first] at apart; cases apart
        | some c => simpa [first] using apart
      rw [String.intercalate_cons_cons, String.append_assoc, slots_before_text gap, slots_after_text absent, ih]
      rfl

theorem slots_commaList (texts : List String) :
    slots (commaList texts).toList = texts.flatMap fun text => slots text.toList :=
  slots_intercalate (by decide) (by decide) texts

/-- The placeholders of `count` arguments that follow the first `start` ones, each at least once and no other. -/
def Covers (found : List (Option Nat)) (start count : Nat) : Prop :=
  ∀ slot, slot ∈ found ↔ ∃ i < count, slot = some (start + i + 1)

namespace Covers
variable {found more : List (Option Nat)} {start count : Nat}

theorem none (start : Nat) : Covers [] start 0 := by
  intro slot
  simp

/-- What follows covers the numbers that follow. -/
theorem append {others : Nat} (first : Covers found start count) (rest : Covers more (start + count) others) :
    Covers (found ++ more) start (count + others) := by
  intro slot
  rw [List.mem_append, first slot, rest slot]
  constructor
  · rintro (⟨i, within, rfl⟩ | ⟨i, within, rfl⟩)
    · exact ⟨i, by omega, rfl⟩
    · exact ⟨count + i, by omega, by congr 1; omega⟩
  · rintro ⟨i, within, rfl⟩
    by_cases early : i < count
    · exact Or.inl ⟨i, early, rfl⟩
    · exact Or.inr ⟨i - count, by omega, by congr 1; omega⟩

/-- One argument may stand in several places. -/
theorem one (marked : ∀ slot ∈ found, slot = some (start + 1)) (filled : found ≠ []) : Covers found start 1 := by
  intro slot
  constructor
  · intro member
    exact ⟨0, by omega, marked slot member⟩
  · rintro ⟨i, within, rfl⟩
    obtain ⟨slot, member⟩ := List.exists_mem_of_ne_nil found filled
    obtain rfl : i = 0 := by omega
    have same := marked slot member
    rwa [same] at member

theorem placeholder (start : Nat) : Covers (slots (Query.placeholder (start + 1)).toList) start 1 := by
  rw [slots_placeholder]
  exact one (by simp) (by simp)

/-- A row of placeholders covers its own numbers. -/
theorem placeholders (start count : Nat) :
    Covers ((Store.placeholders start count).flatMap fun slot => slots slot.toList) start count := by
  induction count generalizing start with
  | zero => exact none start
  | succ count ih =>
    rw [placeholders_succ, List.flatMap_cons, Nat.add_comm count 1]
    exact (placeholder start).append (ih (start + 1))

/-- Whether all of some numbers are covered is seen from the lists. -/
theorem decided (found : List (Option Nat)) (start count : Nat) :
    ((∀ slot ∈ found, slot ∈ (List.range count).map fun i => some (start + i + 1)) ∧
      ∀ i < count, some (start + i + 1) ∈ found) ↔ Covers found start count := by
  simp only [List.mem_map, List.mem_range]
  constructor
  · rintro ⟨numbered, complete⟩ slot
    constructor
    · intro member
      obtain ⟨i, within, same⟩ := numbered slot member
      exact ⟨i, within, same.symm⟩
    · rintro ⟨i, within, rfl⟩
      exact complete i within
  · intro covers
    refine ⟨fun slot member => ?_, fun i within => (covers _).2 ⟨i, within, rfl⟩⟩
    obtain ⟨i, within, same⟩ := (covers slot).1 member
    exact ⟨i, within, same.symm⟩

instance (found : List (Option Nat)) (start count : Nat) : Decidable (Covers found start count) :=
  decidable_of_decidable_of_iff (decided found start count)

end Covers

/-- The placeholders in the text are those of the arguments. -/
def Statement.Numbered (q : Statement) : Prop := Covers (slots q.text.toList) 0 q.args.length

end AssetRegistry.Store

namespace AssetRegistry.Query
open Store

theorem not_mem_trim {c : Char} {s : String} (absent : c ∉ s.toList) : c ∉ (Text.trim s).toList := by
  rw [Text.toList_trim, Text.trimChars, List.mem_reverse]
  intro member
  have kept := (List.dropWhile_sublist Text.isBlank).subset member
  exact absent ((List.dropWhile_sublist Text.isBlank).subset (List.mem_reverse.1 kept))

namespace Condition

/-- In the text of the condition its placeholder stands at least once and no other does; a condition without an argument
has none. -/
def Numbered (c : Condition) : Prop :=
  ∀ start text, c.clause (placeholder (start + 1)) = .ok text → Covers (slots text.toList) start c.param?.toList.length

theorem numbered_raw {sql : String} (absent : '$' ∉ sql.toList) : (raw sql).Numbered := by
  rintro start _ ⟨⟩
  rw [slots_of_absent absent]
  exact .none start

theorem numbered_eq {column : String} (absent : '$' ∉ column.toList) (value : Param) : (eq column value).Numbered := by
  rintro start _ ⟨⟩
  rw [String.append_assoc, slots_after_text absent, slots_after_text (by decide)]
  exact .placeholder start

theorem numbered_anyOf {column : String} (absent : '$' ∉ column.toList) (values : List String) :
    (anyOf column values).Numbered := by
  rintro start _ ⟨⟩
  rw [slots_before_text (by decide), String.append_assoc, slots_after_text absent, slots_after_text (by decide),
    slots_of_absent (show '$' ∉ ")".toList by decide), List.append_nil]
  exact .placeholder start

/-- A search in several columns has one placeholder, over and over. -/
theorem numbered_search {columns : List String} (absent : ∀ column ∈ columns, '$' ∉ column.toList) (some : columns ≠ [])
    (term : String) : (search columns term).Numbered := by
  rintro start _ ⟨⟩
  have each {column : String} (member : column ∈ columns) :
      slots (column ++ " ILIKE " ++ placeholder (start + 1)).toList = [.some (start + 1)] := by
    rw [String.append_assoc, slots_after_text (absent column member), slots_after_text (by decide), slots_placeholder]
  rw [slots_before_text (by decide), slots_after_text (by decide), slots_intercalate (by decide) (by decide),
    slots_of_absent (show '$' ∉ ")".toList by decide), List.append_nil, List.flatMap_map]
  refine .one ?_ ?_
  · intro slot member
    obtain ⟨column, among, found⟩ := List.mem_flatMap.1 member
    rw [each among] at found
    exact List.mem_singleton.1 found
  · obtain ⟨column, among⟩ := List.exists_mem_of_ne_nil columns some
    refine List.ne_nil_of_mem (a := .some (start + 1)) (List.mem_flatMap.2 ⟨column, among, ?_⟩)
    rw [each among]
    exact List.mem_singleton_self _

/-- A text with one mark, which no digit follows, and with no placeholder of its own. -/
def Fillable (sql : List Char) : Prop :=
  (templatePieces sql).length = 2 ∧
    ∀ piece ∈ templatePieces sql, '$' ∉ piece ∧ piece.head?.all (!·.isDigit) = true

instance (sql : List Char) : Decidable (Fillable sql) := inferInstanceAs (Decidable (_ ∧ _))

/-- A fixed text with one gap has the placeholder in the gap. -/
theorem numbered_template {sql : String} (fillable : Fillable sql.toList) (value : Param) :
    (template sql value).Numbered := by
  obtain ⟨two, static⟩ := fillable
  intro start text clauses
  match pieces : templatePieces sql.toList, two with
  | [before, after], _ =>
    obtain ⟨absent, -⟩ := static before (by simp [pieces])
    obtain ⟨absentAfter, apart⟩ := static after (by simp [pieces])
    rw [clause, pieces] at clauses
    obtain rfl := Except.ok.inj clauses
    rw [slots_before_text (by simpa using apart), slots_after_text (by simpa using absent),
      slots_of_absent (show '$' ∉ (String.ofList after).toList by simpa using absentAfter), List.append_nil]
    exact .placeholder start

theorem numbered_of_mem_ofSearch {columns : List String} {term : Option String} {c : Condition}
    (absent : ∀ column ∈ columns, '$' ∉ column.toList) (member : c ∈ ofSearch columns term) : c.Numbered := by
  unfold ofSearch at member
  split at member
  · split at member
    · cases member
    next given =>
      obtain rfl := List.mem_singleton.1 member
      refine numbered_search absent ?_ _
      rintro rfl
      simp at given
  · cases member

/-- Conditions one after the other cover the numbers from the first one on. -/
theorem covers_clauses {conditions : List Condition} (numbered : ∀ c ∈ conditions, c.Numbered) {start : Nat}
    {texts : List String} {params : List Param} (renders : clauses start conditions = .ok (texts, params)) :
    Covers (texts.flatMap fun text => slots text.toList) start params.length := by
  induction conditions generalizing start texts params with
  | nil =>
    obtain ⟨rfl, rfl⟩ := Prod.mk.inj (Except.ok.inj renders)
    exact .none start
  | cons c cs ih =>
    obtain ⟨text, first, renders⟩ := ok_of_bind renders
    obtain ⟨⟨laterTexts, laterParams⟩, rest, renders⟩ := ok_of_bind renders
    obtain ⟨rfl, rfl⟩ := Prod.mk.inj (Except.ok.inj renders)
    rw [List.flatMap_cons, List.length_append]
    have later := ih (fun c member => numbered c (List.mem_cons_of_mem _ member)) rest
    exact (numbered c List.mem_cons_self start text first).append later

end Condition

/-- The fixed parts of a query have no placeholders. -/
structure Select.Static (q : Select) : Prop where
  base : '$' ∉ q.base.toList
  groupBy : '$' ∉ (q.groupBy.elim "" ("GROUP BY " ++ ·)).toList
  order : '$' ∉ q.order.render.toList

/-- The window has a placeholder for each of its two numbers. -/
theorem covers_window (start : Nat) (page : Option Page) :
    Covers (slots (windowClause start page).1.toList) start (windowClause start page).2.length := by
  cases page with
  | none => exact .none start
  | some page =>
    have offset : slots (" OFFSET " ++ placeholder (start + 2)).toList = [some (start + 2)] := by
      rw [slots_after_text (by decide), slots_placeholder]
    have window : slots (windowClause start (some page)).1.toList = [some (start + 1)] ++ [some (start + 2)] := by
      show slots ("LIMIT " ++ placeholder (start + 1) ++ " OFFSET " ++ placeholder (start + 2)).toList = _
      rw [String.append_assoc, String.append_assoc, slots_after_text (by decide),
        slots_before_text (by rw [String.toList_append]; rfl), offset, slots_placeholder]
    rw [window]
    show Covers _ start (1 + 1)
    exact .append (.one (by simp) (by simp)) (.one (by simp) (by simp))

theorem flatMap_slots_filter (parts : List String) :
    ((parts.filter fun part => !part.isEmpty).flatMap fun part => slots part.toList) =
      parts.flatMap fun part => slots part.toList := by
  induction parts with
  | nil => rfl
  | cons part parts ih =>
    rw [List.filter_cons, List.flatMap_cons]
    split
    next => rw [List.flatMap_cons, ih]
    next blank =>
      have empty : part = "" := by simpa using blank
      rw [ih, empty]
      rfl

/-- The text of a list query, part by part. -/
theorem rendered_of_render {q : Select} {rendered : Rendered} (renders : q.render = .ok rendered) :
    ∃ texts params, Condition.clauses 0 q.conditions = .ok (texts, params) ∧
      rendered.text = String.intercalate " "
        ([Text.trim q.base, "WHERE " ++ if texts.isEmpty then "1=1" else String.intercalate " AND " texts,
          q.groupBy.elim "" ("GROUP BY " ++ ·), q.order.render, (windowClause params.length q.page).1].filter
            fun part => !part.isEmpty) ∧
      rendered.params = params ++ (windowClause params.length q.page).2 := by
  obtain ⟨-, -, renders⟩ := ok_of_bind renders
  obtain ⟨⟨conditions, params⟩, joined, renders⟩ := ok_of_bind renders
  obtain ⟨⟨texts, found⟩, clauses, joined⟩ := ok_of_bind joined
  obtain ⟨rfl, rfl⟩ := Prod.mk.inj (Except.ok.inj joined)
  dsimp only [pure, Except.pure] at renders
  obtain rfl := Except.ok.inj renders
  refine ⟨texts, found, clauses, ?_, ?_⟩ <;> dsimp only

/-- A query's placeholders are those of its arguments, if this is so for each of its conditions. -/
theorem covers_render {q : Select} (static : q.Static) (numbered : ∀ c ∈ q.conditions, c.Numbered) {rendered : Rendered}
    (renders : q.render = .ok rendered) : Covers (slots rendered.text.toList) 0 rendered.params.length := by
  obtain ⟨texts, params, clauses, text, all⟩ := rendered_of_render renders
  have joined : slots ("WHERE " ++ if texts.isEmpty then "1=1" else String.intercalate " AND " texts).toList =
      texts.flatMap fun text => slots text.toList := by
    rw [slots_after_text (by decide)]
    split
    next blank =>
      rw [List.isEmpty_iff.1 blank]
      exact slots_of_absent (by decide)
    next => exact slots_intercalate (by decide) (by decide) texts
  have whole := (Condition.covers_clauses numbered clauses).append (covers_window (0 + params.length) q.page)
  rw [Nat.zero_add] at whole
  rw [text, all, List.length_append, slots_intercalate (by decide) (by decide), flatMap_slots_filter]
  simp only [List.flatMap_cons, List.flatMap_nil, joined, slots_of_absent (not_mem_trim static.base),
    slots_of_absent static.groupBy, slots_of_absent static.order, List.nil_append, List.append_nil]
  exact whole

end AssetRegistry.Query

namespace AssetRegistry
open Store Query.Condition

theorem absent_append {c : Char} {s t : String} (first : c ∉ s.toList) (second : c ∉ t.toList) :
    c ∉ (s ++ t).toList := by
  rw [String.toList_append, List.mem_append, not_or]
  exact ⟨first, second⟩

theorem absent_literal {c : Char} {cs : List Char} (absent : c ∉ cs) : c ∉ (String.ofList cs).toList := by
  rwa [String.toList_ofList]

theorem absent_assetListBase : '$' ∉ assetListBase.toList := by
  unfold assetListBase catalogueJoin currentStatusJoin
  repeat' with_reducible apply absent_append
  all_goals exact absent_literal (by decide +kernel)

theorem absent_userListBase : '$' ∉ userListBase.toList := by
  unfold userListBase
  repeat' with_reducible apply absent_append
  all_goals exact absent_literal (by decide +kernel)

/-- What is fixed about the list of assets holds no placeholder. -/
theorem Assets.static_listQuery (filter : AssetFilter) (page : Query.Page) : (listQuery filter page).Static where
  base := absent_assetListBase
  groupBy := by simp [listQuery]
  order := by
    show '$' ∉ ("ORDER BY " ++ String.intercalate ", " ["a.created_at" ++ " " ++ "DESC", "a.id" ++ " " ++ "DESC"]).toList
    rw [String.intercalate_cons_cons, String.intercalate_singleton]
    repeat' with_reducible apply absent_append
    all_goals exact absent_literal (by decide)

theorem Assets.numbered_of_mem_label {α : Type} [Vocabulary α] {column : String} (absent : '$' ∉ column.toList)
    {wanted : Option α} {c : Query.Condition} (member : c ∈ labelCondition column wanted) : c.Numbered := by
  cases wanted with
  | none => cases member
  | some a =>
    obtain rfl := List.mem_singleton.1 member
    exact numbered_eq absent _

/-- Every condition on assets has the placeholders of its arguments. -/
theorem Assets.numbered_listConditions (filter : AssetFilter) : ∀ c ∈ listConditions filter, c.Numbered := by
  intro c member
  unfold listConditions at member
  simp only [List.cons_append, List.mem_cons, List.mem_append] at member
  obtain rfl | ((searched | typed) | status) | owned := member
  · exact numbered_raw (by decide)
  · exact numbered_of_mem_ofSearch (by decide) searched
  · exact numbered_of_mem_label (by decide) typed
  · exact numbered_of_mem_label (by decide) status
  · exact numbered_of_mem_label (by decide) owned

theorem Users.static_listQuery (filter : UserFilter) (page : Query.Page) : (listQuery filter page).Static where
  base := absent_userListBase
  groupBy := absent_append (absent_literal (by decide)) (absent_literal (by decide))
  order := by
    show '$' ∉ ("ORDER BY " ++ String.intercalate ", " ["u.name" ++ " " ++ "ASC", "u.id" ++ " " ++ "ASC"]).toList
    rw [String.intercalate_cons_cons, String.intercalate_singleton]
    repeat' with_reducible apply absent_append
    all_goals exact absent_literal (by decide)

theorem Users.static_summaryQuery (id : Uuid) : (summaryQuery id).Static where
  base := absent_userListBase
  groupBy := absent_append (absent_literal (by decide)) (absent_literal (by decide))
  order := by simp [summaryQuery, Query.Order.render]

theorem Users.numbered_of_mem_labels {α : Type} [Vocabulary α] {sql : String} {values : List α} {c : Query.Condition}
    (fillable : Fillable sql.toList) (member : c ∈ labelsCondition sql values) : c.Numbered := by
  unfold labelsCondition at member
  split at member
  · cases member
  · obtain rfl := List.mem_singleton.1 member
    exact numbered_template fillable _

/-- Every condition on users has the placeholders of its arguments. -/
theorem Users.numbered_listConditions (filter : UserFilter) : ∀ c ∈ listConditions filter, c.Numbered := by
  intro c member
  unfold listConditions Query.Condition.ofAnyOf at member
  simp only [List.cons_append, List.mem_cons, List.mem_append] at member
  obtain rfl | ((searched | typed) | held) | status := member
  · exact numbered_raw (by decide)
  · exact numbered_of_mem_ofSearch (by decide) searched
  · split at typed
    · cases typed
    · obtain rfl := List.mem_singleton.1 typed
      exact numbered_anyOf (by decide) _
  · exact numbered_of_mem_labels (by decide +kernel) held
  · exact numbered_of_mem_labels (by decide +kernel) status

theorem Users.numbered_summaryConditions (id : Uuid) : ∀ c ∈ (summaryQuery id).conditions, c.Numbered := by
  intro c member
  simp only [summaryQuery, List.mem_cons, List.not_mem_nil, or_false] at member
  obtain rfl | rfl := member
  · exact numbered_raw (by decide)
  · exact numbered_eq (by decide) _

end AssetRegistry

namespace AssetRegistry.Store.Statement

/-- The text does not depend on the arguments' number. -/
theorem numbered_of_spelled {q : Statement} {cs : List Char} {count : Nat} (spelled : q.text.toList = cs)
    (bound : q.args.length = count) (covers : Covers (slots cs) 0 count) : q.Numbered := by
  unfold Numbered
  rwa [spelled, bound]

theorem absent_column (t : AssetType) : ∀ name ∈ (Specs.columns t).map (·.name), '$' ∉ name.toList := by
  cases t <;> decide +kernel

theorem absent_table (t : AssetType) : '$' ∉ (Specs.table t).toList := by
  cases t <;> decide +kernel

theorem absent_changed (p : AttributesPatch) : ∀ name ∈ p.changedColumns, '$' ∉ name.toList := by
  intro name member
  obtain ⟨column, among, rfl⟩ := Specs.Changes.mem_columns member
  exact absent_column p.type _ (List.mem_map_of_mem among)

theorem slots_names {names : List String} (absent : ∀ name ∈ names, '$' ∉ name.toList) :
    slots (commaList names).toList = [] := by
  rw [slots_commaList, List.flatMap_eq_nil_iff]
  intro name member
  exact slots_of_absent (absent name member)

/-- Attributes have as many placeholders as columns. -/
theorem numbered_insertAttributes (a : Attributes) : (insertAttributes a).Numbered := by
  have text : slots (insertAttributes a).text.toList =
      (placeholders 0 (Specs.columns a.type).length).flatMap fun slot => slots slot.toList := by
    unfold Statement.text
    simp only [String.append_assoc, List.length_map]
    rw [slots_after_text (by decide), slots_after_text (absent_table a.type), slots_after_text (by decide),
      slots_before_text (by rw [String.toList_append]; rfl), slots_names (absent_column a.type), List.nil_append,
      slots_after_text (by decide), slots_before_text (by decide), slots_commaList,
      slots_of_absent (show '$' ∉ ") RETURNING id".toList by decide), List.append_nil]
  have bound : (insertAttributes a).args.length = (Specs.columns a.type).length := Specs.Values.length_toArgs _ _
  unfold Numbered
  rw [text, bound]
  exact .placeholders 0 _

/-- Each change has the placeholder of its own argument. -/
theorem slots_changes {names : List String} (absent : ∀ name ∈ names, '$' ∉ name.toList) :
    slots (commaList ((names.zip (placeholders 0 names.length)).map fun (name, slot) => name ++ " = " ++ slot)).toList =
      (placeholders 0 names.length).flatMap fun slot => slots slot.toList := by
  have all : (names.zip (placeholders 0 names.length)).map (·.2) = placeholders 0 names.length :=
    List.map_snd_zip (by simp [placeholders])
  conv => rhs; rw [← all]
  rw [slots_commaList, List.flatMap_map, List.flatMap_map]
  refine congrArg List.flatten (List.map_congr_left fun pair member => ?_)
  obtain ⟨isName, -⟩ := List.of_mem_zip member
  show slots (pair.1 ++ " = " ++ pair.2).toList = slots pair.2.toList
  rw [String.append_assoc, slots_after_text (absent _ isName), slots_after_text (by decide)]

/-- An update has a placeholder for each changed column, and one for the row. -/
theorem numbered_updateAttributes (p : AttributesPatch) (id : Uuid) : (updateAttributes p id).Numbered := by
  have text : slots (updateAttributes p id).text.toList =
      ((placeholders 0 p.changedColumns.length).flatMap fun slot => slots slot.toList) ++
        slots (Query.placeholder (0 + p.changedColumns.length + 1)).toList := by
    unfold Statement.text
    simp only [String.append_assoc]
    rw [slots_after_text (by decide), slots_after_text (absent_table p.type), slots_after_text (by decide),
      slots_before_text (by rw [String.toList_append]; rfl), slots_after_text (by decide), Nat.zero_add]
    simp only [← String.append_assoc]
    rw [slots_changes (absent_changed p)]
  have bound : (updateAttributes p id).args.length = p.changedColumns.length + 1 := by
    simp [args, AttributesPatch.changedColumns]
  unfold Numbered
  rw [text, bound]
  exact (Covers.placeholders 0 _).append (.placeholder _)

theorem numbered_findAttributes (t : AssetType) (id : Uuid) : (findAttributes t id).Numbered := by
  have text : slots (findAttributes t id).text.toList = slots "$1".toList := by
    unfold Statement.text
    simp only [String.append_assoc]
    rw [slots_after_text (by decide), slots_before_text (by rw [String.toList_append]; rfl),
      slots_names (absent_column t), List.nil_append, slots_after_text (by decide), slots_after_text (absent_table t)]
    decide
  unfold Numbered
  rw [text]
  show Covers (slots "$1".toList) 0 1
  decide

/-- A statement's placeholders are those of its arguments, if this is so for the query of a list. -/
theorem numbered_of_query {q : Statement}
    (listed : ∀ query ∈ q.query?, Covers (slots query.text.toList) 0 query.params.length) : q.Numbered := by
  cases q with
  | listAssets query | listUsers query =>
    unfold Numbered
    rw [args, List.length_map]
    exact listed query rfl
  | insertAttributes a => exact numbered_insertAttributes a
  | updateAttributes p id => exact numbered_updateAttributes p id
  | findAttributes t id => exact numbered_findAttributes t id
  | lockUser id exclusive =>
    have spelled : ∃ cs, (lockUser id exclusive).text.toList = cs ∧ Covers (slots cs) 0 1 := by
      cases exclusive
      all_goals exact ⟨_, spelled_append String.toList_ofList String.toList_ofList, by decide +kernel⟩
    obtain ⟨cs, spelled, covers⟩ := spelled
    exact numbered_of_spelled spelled rfl covers
  | _ =>
    apply numbered_of_spelled
    case spelled =>
      unfold text entryColumns userColumns catalogueJoin currentStatusJoin
      repeat' first | with_reducible apply spelled_append | exact String.toList_ofList
    case bound =>
      simp only [args, List.length_cons, List.length_nil]
      rfl
    case covers => decide +kernel

end AssetRegistry.Store.Statement

namespace AssetRegistry.Service
open Store

/-- Whatever a call may send has the placeholders of its arguments. -/
theorem Call.MaySend.numbered {past : List Event} {call : Call} {q : Statement} (may : call.MaySend past q) :
    q.Numbered := by
  refine Statement.numbered_of_query fun query isQuery => ?_
  cases may with
  | listAssets renders =>
    cases isQuery
    exact Query.covers_render (Assets.static_listQuery _ _) (Assets.numbered_listConditions _) renders
  | listUsers renders =>
    cases isQuery
    exact Query.covers_render (Users.static_listQuery _ _) (Users.numbered_listConditions _) renders
  | findSummary renders =>
    cases isQuery
    exact Query.covers_render (Users.static_summaryQuery _) (Users.numbered_summaryConditions _) renders
  | _ => cases isQuery

/-- Whatever is answered, in every statement that a call sends the placeholders are those of its arguments, each at
least once and no other. -/
theorem statements_numbered (call : Call) (replies : Nat → Reply) (q : Statement) (reply : Reply)
    (sent : (.statement q, reply) ∈ (call.operation.run.against replies).1) :
    ∀ slot, slot ∈ slots q.text.toList ↔ ∃ i < q.args.length, slot = some (i + 1) := by
  obtain ⟨before, after, occurs⟩ := List.append_of_mem sent
  have may : call.MaySend before q := call.obeys.ruled occurs
  have numbered : Covers (slots q.text.toList) 0 q.args.length := may.numbered
  intro slot
  rw [numbered slot]
  simp only [Nat.zero_add]

/-- The third page of the laptops in service. -/
def laptopsInService : Call := .listAssets { assetType := some .laptop, status := some .inService } ⟨20, 40⟩

/-- The list is asked for in one statement, with an argument for each condition and two for the window. -/
theorem laptopsInService_sent : ∃ query : Query.Rendered, query.params.length = 4 ∧
    (laptopsInService.operation.run.against fun _ => .rows []).1 = [(.statement (.listAssets query), .rows [])] :=
  ⟨_, rfl, rfl⟩

/-- Two conditions and a window have four placeholders. -/
theorem laptopsInService_numbered : ∃ query : Query.Rendered,
    (laptopsInService.operation.run.against fun _ => .rows []).1 = [(.statement (.listAssets query), .rows [])] ∧
      ∀ slot, slot ∈ slots query.text.toList ↔ ∃ i < 4, slot = some (i + 1) := by
  obtain ⟨query, four, sent⟩ := laptopsInService_sent
  have member : (Message.statement (.listAssets query), Reply.rows []) ∈
      (laptopsInService.operation.run.against fun _ => .rows []).1 := by
    rw [sent]
    exact List.mem_singleton_self _
  have bound : (Statement.listAssets query).args.length = 4 := (List.length_map _).trans four
  refine ⟨query, sent, fun slot => ?_⟩
  rw [← bound]
  exact statements_numbered laptopsInService (fun _ => .rows []) (.listAssets query) (.rows []) member slot

end AssetRegistry.Service
