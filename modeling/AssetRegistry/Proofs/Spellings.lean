import AssetRegistry.Proofs.FormTexts
import AssetRegistry.Proofs.Parameters
import Mathlib.Data.List.TakeWhile

namespace AssetRegistry

open Text
open Vocabulary (labels noun)

/-- A vocabulary whose labels are words of small letters and underscores, each of which means one value. -/
class LawfulVocabulary (α : Type) [Vocabulary α] : Prop where
  nonempty (a : α) : label a ≠ ""
  plain (a : α) : ∀ c ∈ (label a).toList, c = '_' ∨ 'a' ≤ c ∧ c ≤ 'z'
  found (a : α) : Vocabulary.ofLabel? (label a) = some a

instance : LawfulVocabulary AssetType where
  nonempty a := by cases a <;> decide
  plain a := by cases a <;> simp [label, Vocabulary.label]
  found a := by cases a <;> rfl

instance : LawfulVocabulary AssetStatus where
  nonempty a := by cases a <;> decide
  plain a := by cases a <;> simp [label, Vocabulary.label]
  found a := by cases a <;> rfl

instance : LawfulVocabulary Owner where
  nonempty a := by cases a <;> decide
  plain a := by cases a <;> simp [label, Vocabulary.label]
  found a := by cases a <;> rfl

instance : LawfulVocabulary Role where
  nonempty a := by cases a <;> decide
  plain a := by cases a <;> simp [label, Vocabulary.label]
  found a := by cases a <;> rfl

instance : LawfulVocabulary UserType where
  nonempty a := by cases a <;> decide
  plain a := by cases a <;> simp [label, Vocabulary.label]
  found a := by cases a <;> rfl

namespace Text

theorem trimChars_blanks {cs : List Char} (blank : ∀ c ∈ cs, isBlank c = true) : trimChars cs = [] := by
  have nothing : cs.dropWhile isBlank = [] := List.dropWhile_eq_nil_iff.2 blank
  unfold trimChars
  rw [nothing]
  rfl

/-- The blanks around a text do not matter. -/
theorem trimChars_beside {before cs after : List Char} (tidy : TidyChars cs) (leading : ∀ c ∈ before, isBlank c = true)
    (trailing : ∀ c ∈ after, isBlank c = true) : trimChars (before ++ cs ++ after) = cs := by
  have front : (before ++ cs ++ after).dropWhile isBlank = cs ++ after := by
    rw [List.append_assoc, List.dropWhile_append_of_pos leading]
    refine dropWhile_of_first fun c first => tidy.first c ?_
    obtain ⟨d, rest, rfl⟩ := List.exists_cons_of_ne_nil tidy.nonempty
    exact first
  have back : (cs ++ after).reverse.dropWhile isBlank = cs.reverse := by
    rw [List.reverse_append, List.dropWhile_append_of_pos (by simpa using trailing)]
    exact dropWhile_of_first (by simpa using tidy.last)
  unfold trimChars
  rw [front, back, List.reverse_reverse]

theorem shown_append (texts texts' : List String) : shown (texts ++ texts') = shown texts ++ shown texts' := by
  unfold shown
  rw [List.map_append, List.filter_append]

end Text

namespace LawfulVocabulary
variable {α : Type} [Vocabulary α] [LawfulVocabulary α]

theorem not_blank_of_mem_label {a : α} {c : Char} (member : c ∈ (label a).toList) : isBlank c = false := by
  obtain rfl | letter := plain a c member
  · decide
  · exact not_blank_of_letter letter

theorem tidy (a : α) : TidyChars (label a).toList where
  nonempty empty := nonempty a (String.toList_eq_nil_iff.1 empty)
  first _ first := not_blank_of_mem_label (List.mem_of_head? first)
  last _ last := not_blank_of_mem_label (List.mem_of_getLast? last)

theorem comma_not_mem (a : α) : ',' ∉ (label a).toList := by
  intro member
  have letter := plain a ',' member
  revert letter
  decide

theorem trim_label (a : α) : trim (label a) = label a := Tidy.trim (tidy a)

/-- A label is read as what it labels. -/
theorem parse_label (a : α) : Vocabulary.parse (label a) = .ok a := by
  unfold Vocabulary.parse
  rw [trim_label, found]

end LawfulVocabulary

namespace Web.Params
variable {α : Type} [Vocabulary α]

/-- What stands between two commas: nothing but blanks, or a label with blanks around it. -/
inductive Segment : List α → List Char → Prop
  | blank {cs : List Char} : (∀ c ∈ cs, isBlank c = true) → Segment [] cs
  | label {before after : List Char} (a : α) : (∀ c ∈ before, isBlank c = true) → (∀ c ∈ after, isBlank c = true) →
      Segment [a] (before ++ (Vocabulary.label a).toList ++ after)

/-- Segments with commas between them. -/
inductive Lists : List α → List Char → Prop
  | last {vs : List α} {cs : List Char} : Segment vs cs → Lists vs cs
  | more {vs ws : List α} {cs rest : List Char} : Segment vs cs → Lists ws rest → Lists (vs ++ ws) (cs ++ ',' :: rest)

/-- A query in which the parameters of a name list some values, among any other parameters. -/
inductive Spells (name : String) : List α → (query : String) → Prop
  | parameter {vs : List α} {value first second : String} : Lists vs value.toList →
      Written name.toList first.toList → Written value.toList second.toList → Spells name vs (first ++ "=" ++ second)
  | other {query : String} : (∀ pair ∈ ofQuery query, pair.1 ≠ name) → Spells name [] query
  | beside {vs ws : List α} {query query' : String} : Spells name vs query → Spells name ws query' →
      Spells name (vs ++ ws) (query ++ "&" ++ query')

theorem ofQuery_append (query query' : String) : ofQuery (query ++ "&" ++ query') = ofQuery query ++ ofQuery query' :=
  formPairs_append query query'

theorem values_append (ps qs : Params) (name : String) : (ps ++ qs).values name = ps.values name ++ qs.values name := by
  unfold values
  rw [List.filter_append, List.map_append]

theorem pieces_append (ps qs : Params) (name : String) : (ps ++ qs).pieces name = ps.pieces name ++ qs.pieces name := by
  unfold pieces
  rw [values_append, List.flatMap_append, shown_append]

theorem many_eq (ps : Params) (name : String) : (ps.many name : Except ApiError (List α)) =
    (ps.pieces name).mapM (label name) := by
  rw [many, flatMap_segments]

/-- What is read of both is what is read of each, in order. -/
theorem many_append (ps qs : Params) (name : String) : ((ps ++ qs).many name : Except ApiError (List α)) =
    (do return (← ps.many name) ++ (← qs.many name)) := by
  rw [many_eq, pieces_append, List.mapM_append, many_eq, many_eq]

/-- What is told of a text that is no label. -/
def unknownLabel (α : Type) [Vocabulary α] (name s : String) : ApiError :=
  ⟨.badRequest, "invalid " ++ name ++ ": unknown " ++ noun α ++ ": " ++ s⟩

/-- A trimmed text is a label, or is refused as unknown. -/
theorem label_cases {s : String} (trimmed : trim s = s) (name : String) :
    (s ∈ labels α ∧ ∃ a : α, label name s = .ok a) ∨
      (s ∉ labels α ∧ (label name s : Except ApiError α) = .error (unknownLabel α name s)) := by
  by_cases known : s ∈ labels α
  · obtain ⟨a, reads, -⟩ := label_known name trimmed known
    exact Or.inl ⟨known, a, reads⟩
  · refine Or.inr ⟨known, ?_⟩
    have joined : ": unknown " = ": " ++ "unknown " := by decide
    rw [label, Vocabulary.parse_unknown trimmed known]
    simp only [Except.mapError, UnknownLabel.message, unknownLabel, joined, String.append_assoc]

/-- The first text that is no label is told. -/
theorem mapM_label_error_iff {name : String} {texts : List String} (trimmed : ∀ s ∈ texts, trim s = s) {e : ApiError} :
    (texts.mapM (label name) : Except ApiError (List α)) = .error e ↔ ∃ before s after, texts = before ++ s :: after ∧
      (∀ t ∈ before, t ∈ labels α) ∧ s ∉ labels α ∧ e = unknownLabel α name s := by
  induction texts with
  | nil => simp [pure, Except.pure]
  | cons s rest ih =>
    rw [List.forall_mem_cons] at trimmed
    have ih := ih trimmed.2
    rw [List.mapM_cons]
    obtain ⟨known, a, reads⟩ | ⟨unknown, fails⟩ := label_cases (α := α) trimmed.1 name
    · have later : (label name s >>= fun a => rest.mapM (label name) >>= fun as => pure (a :: as) :
          Except ApiError (List α)) = .error e ↔ (rest.mapM (label name) : Except ApiError (List α)) = .error e := by
        rw [reads]
        cases (rest.mapM (label name) : Except ApiError (List α)) <;> simp [bind, Except.bind, pure, Except.pure]
      rw [later, ih]
      constructor
      · rintro ⟨before, t, after, rfl, others, unknown, told⟩
        exact ⟨s :: before, t, after, rfl, List.forall_mem_cons.2 ⟨known, others⟩, unknown, told⟩
      · rintro ⟨before, t, after, parts, others, unknown, told⟩
        cases before with
        | nil =>
          obtain ⟨rfl, -⟩ := List.cons.inj parts
          exact absurd known unknown
        | cons _ before =>
          obtain ⟨-, rfl⟩ := List.cons.inj parts
          exact ⟨before, t, after, rfl, (List.forall_mem_cons.1 others).2, unknown, told⟩
    · rw [fails]
      constructor
      · rintro ⟨⟩
        exact ⟨[], s, rest, rfl, nofun, unknown, rfl⟩
      · rintro ⟨before, t, after, parts, others, -, rfl⟩
        cases before with
        | nil =>
          obtain ⟨rfl, -⟩ := List.cons.inj parts
          rfl
        | cons _ before =>
          obtain ⟨rfl, -⟩ := List.cons.inj parts
          exact absurd (others _ List.mem_cons_self) unknown

/-- The first piece that is no label is the one that is told. -/
theorem many_error_iff (ps : Params) (name : String) (e : ApiError) :
    (ps.many name : Except ApiError (List α)) = .error e ↔ ∃ before s after, ps.pieces name = before ++ s :: after ∧
      (∀ t ∈ before, t ∈ labels α) ∧ s ∉ labels α ∧ e = unknownLabel α name s := by
  rw [many_eq]
  exact mapM_label_error_iff fun s member => trim_of_mem_shown member

variable [LawfulVocabulary α]

theorem Segment.comma_not_mem {vs : List α} {cs : List Char} (segment : Segment vs cs) : ',' ∉ cs := by
  have absent {blanks : List Char} (blank : ∀ c ∈ blanks, isBlank c = true) : ',' ∉ blanks := by
    intro member
    have isBlank := blank ',' member
    revert isBlank
    decide
  cases segment with
  | blank blank => exact absent blank
  | label a leading trailing =>
    simp only [List.mem_append, not_or]
    exact ⟨⟨absent leading, LawfulVocabulary.comma_not_mem a⟩, absent trailing⟩

/-- A segment shows the label in it, if there is one. -/
theorem Segment.shown_eq {vs : List α} {cs : List Char} (segment : Segment vs cs) :
    shown [.ofList cs] = vs.map Vocabulary.label := by
  cases segment with
  | blank blank =>
    have empty : trim (.ofList cs) = "" := by rw [trim, String.toList_ofList, trimChars_blanks blank, String.ofList_nil]
    rw [shown, List.map_singleton, empty]
    rfl
  | @label before after a leading trailing =>
    have trimmed : trim (.ofList (before ++ (Vocabulary.label a).toList ++ after)) = Vocabulary.label a := by
      rw [trim, String.toList_ofList, trimChars_beside (LawfulVocabulary.tidy a) leading trailing, String.ofList_toList]
    have kept : [Vocabulary.label a].filter (· ≠ "") = [Vocabulary.label a] :=
      List.filter_eq_self.2 (by simpa using LawfulVocabulary.nonempty a)
    rw [shown, List.map_singleton, trimmed, kept]
    rfl

/-- A list shows its labels, whatever blanks and empty segments lie between. -/
theorem Lists.shown_eq {vs : List α} {cs : List Char} (lists : Lists vs cs) :
    shown ((splitAll ',' cs).map String.ofList) = vs.map Vocabulary.label := by
  induction lists with
  | last segment =>
    rw [splitAll_of_not_mem segment.comma_not_mem]
    exact segment.shown_eq
  | more segment _ ih =>
    rw [splitAll_append, splitAll_of_not_mem segment.comma_not_mem, List.map_append, shown_append, ih, List.map_append]
    exact congrArg (· ++ _) segment.shown_eq

/-- Whatever the query, the segments under the name are the labels of the values. -/
theorem Spells.pieces_eq {name query : String} {vs : List α} (spells : Spells name vs query) :
    (ofQuery query).pieces name = vs.map Vocabulary.label := by
  induction spells with
  | @parameter vs value first second lists isName isValue =>
    have pairs : ofQuery (first ++ "=" ++ second) = [(name, value)] := formPairs_of_written isName isValue
    have values : (ofQuery (first ++ "=" ++ second)).values name = [value] := by
      rw [pairs, Params.values, List.filter_cons_of_pos (by simp)]
      rfl
    rw [pieces, values, List.flatMap_singleton]
    exact lists.shown_eq
  | @other query apart =>
    have values : (ofQuery query).values name = [] := by
      rw [Params.values, List.filter_eq_nil_iff.2 (by simpa using apart)]
      rfl
    rw [pieces, values]
    rfl
  | beside _ _ ih ih' => rw [ofQuery_append, pieces_append, ih, ih', List.map_append]

theorem mapM_label (name : String) (vs : List α) : (vs.map Vocabulary.label).mapM (label name) = .ok vs := by
  induction vs with
  | nil => rfl
  | cons a vs ih =>
    have parses : (label name (Vocabulary.label a) : Except ApiError α) = .ok a := by
      rw [label, LawfulVocabulary.parse_label]
      rfl
    rw [List.map_cons, List.mapM_cons, parses, ih]
    rfl

/-- Labels mean the same however they are written: whatever spells some values is read as these values, in their order.
What two queries say together is what the one says and then what the other says; where a segment is no label, the first
such segment is told. -/
theorem many_however_written (name : String) :
    (∀ (vs : List α) query, Spells name vs query → (ofQuery query).many name = .ok vs) ∧
    (∀ query query', (ofQuery (query ++ "&" ++ query')).pieces name =
        (ofQuery query).pieces name ++ (ofQuery query').pieces name ∧
      ((ofQuery (query ++ "&" ++ query')).many name : Except ApiError (List α)) =
        (do return (← (ofQuery query).many name) ++ (← (ofQuery query').many name))) ∧
    ∀ query (e : ApiError), ((ofQuery query).many name : Except ApiError (List α)) = .error e ↔
      ∃ before s after, (ofQuery query).pieces name = before ++ s :: after ∧ (∀ t ∈ before, t ∈ labels α) ∧
        s ∉ labels α ∧ e = unknownLabel α name s := by
  refine ⟨fun vs query spells => ?_, fun query query' => ?_, fun query e => many_error_iff _ _ _⟩
  · rw [many_eq, spells.pieces_eq, mapM_label]
  · rw [ofQuery_append]
    exact ⟨pieces_append _ _ _, many_append _ _ _⟩

/-- Three roles in two parameters, with a space, an escape, an empty segment and another parameter among them. -/
theorem roles_spelled : Spells "role" [Role.admin, .employee, .admin] "role=+%61dmin,&page=2&role=employee,admin" ∧
    (ofQuery "role=+%61dmin,&page=2&role=employee,admin").many "role" = .ok [Role.admin, .employee, .admin] := by
  have isName : Written "role".toList "role".toList := written_of_plain (by simp [formMarks])
  have nothing : ∀ c ∈ ([] : List Char), isBlank c = true := List.forall_mem_nil _
  have first : Spells "role" [Role.admin] ("role" ++ "=" ++ "+%61dmin,") := by
    have blank : ∀ c ∈ [' '], isBlank c = true := List.forall_mem_singleton.2 (by decide)
    have admin : Segment [Role.admin] " admin".toList := @Segment.label Role _ [' '] [] .admin blank nothing
    have lists : Lists [Role.admin] " admin,".toList := .more admin (.last (.blank nothing))
    have escape : Escapes 0x61 "%61".toList := ⟨'6', '1', by decide, by decide, by decide⟩
    have escapes : List.Forall₂ Escapes (String.utf8EncodeChar 'a') ["%61".toList] := .cons escape .nil
    have letter : WrittenChar 'a' "%61".toList := .escaped escapes
    have rest : Written "dmin,".toList "dmin,".toList := written_of_plain (by simp [formMarks])
    have isValue : Written " admin,".toList "+%61dmin,".toList := .cons (.plus rfl) (.cons letter rest)
    exact .parameter lists isName isValue
  have between : Spells "role" ([] : List Role) "page=2" := .other (by decide +kernel)
  have last : Spells "role" [Role.employee, .admin] ("role" ++ "=" ++ "employee,admin") := by
    have employee : Segment [Role.employee] "employee".toList :=
      @Segment.label Role _ [] [] .employee nothing nothing
    have admin : Segment [Role.admin] "admin".toList := @Segment.label Role _ [] [] .admin nothing nothing
    have lists : Lists [Role.employee, .admin] "employee,admin".toList := .more employee (.last admin)
    exact .parameter lists isName (written_of_plain (by simp [formMarks]))
  have spells : Spells "role" [Role.admin, .employee, .admin] "role=+%61dmin,&page=2&role=employee,admin" :=
    (first.beside between).beside last
  exact ⟨spells, (many_however_written "role").1 _ _ spells⟩

end Web.Params
end AssetRegistry
