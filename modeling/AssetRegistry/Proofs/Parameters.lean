import AssetRegistry.Proofs.TidyTexts
import AssetRegistry.Proofs.Windows
import AssetRegistry.Web.Params

namespace AssetRegistry.Text

/-- The texts that are not blank, without the blanks around them. -/
def shown (texts : List String) : List String := (texts.map trim).filter (· ≠ "")

theorem filter_isEmpty (texts : List String) : texts.filter (!·.isEmpty) = texts.filter (· ≠ "") := by
  refine List.filter_congr fun text _ => ?_
  rw [Bool.eq_iff_iff]
  simp

theorem trim_of_mem_shown {texts : List String} {s : String} (member : s ∈ shown texts) : trim s = s := by
  obtain ⟨trimmed, nonempty⟩ := List.mem_filter.1 member
  obtain ⟨text, -, rfl⟩ := List.mem_map.1 trimmed
  exact (tidy_trim (by simpa using nonempty)).trim

theorem ne_empty_of_mem_shown {texts : List String} {s : String} (member : s ∈ shown texts) : s ≠ "" := by
  simpa using (List.mem_filter.1 member).2

/-- A text is tidy if no blank stands at its ends. -/
theorem tidy_of_ends {s : String} {c d : Char} (first : s.toList.head? = some c) (last : s.toList.getLast? = some d)
    (opens : isBlank c = false) (ends : isBlank d = false) : Tidy s where
  nonempty := by
    rintro empty
    rw [empty] at first
    cases first
  first := by
    rw [first]
    rintro _ ⟨⟩
    exact opens
  last := by
    rw [last]
    rintro _ ⟨⟩
    exact ends

end AssetRegistry.Text

namespace AssetRegistry.Vocabulary
variable {α : Type} [Vocabulary α] {s : String}

/-- A label of the vocabulary is read. -/
theorem parse_known (trimmed : Text.trim s = s) (known : s ∈ labels α) : ∃ a : α, parse s = .ok a ∧ label a = s := by
  obtain ⟨b, among, labelled⟩ := List.mem_map.1 known
  unfold parse ofLabel?
  rw [trimmed]
  cases found : (all (α := α)).find? fun a => label a == s with
  | none => exact absurd (List.find?_eq_none.1 found b among) (by simpa using labelled)
  | some a => exact ⟨a, rfl, by simpa using List.find?_some found⟩

theorem parse_unknown (trimmed : Text.trim s = s) (unknown : s ∉ labels α) :
    (parse s : Except UnknownLabel α) = .error ⟨noun α, s⟩ := by
  have none : (ofLabel? s : Option α) = none :=
    List.find?_eq_none.2 fun a among labelled => unknown (List.mem_map.2 ⟨a, among, by simpa using labelled⟩)
  unfold parse
  rw [trimmed, none]

end AssetRegistry.Vocabulary

namespace AssetRegistry.Web

/-- The request itself is at fault. -/
def Bad {α : Type} (x : Except ApiError α) : Prop := ∃ message, x = .error ⟨.badRequest, message⟩

theorem Bad.bind {α β : Type} {x : Except ApiError α} (bad : Bad x) (f : α → Except ApiError β) : Bad (x >>= f) := by
  obtain ⟨message, rfl⟩ := bad
  exact ⟨message, rfl⟩

/-- Whatever is not fit is at fault at some step. -/
theorem bad_bind {α β : Type} {x : Except ApiError α} {f : α → Except ApiError β} {fit : Prop}
    (succeeds : fit → ∃ a, x = .ok a) (fails : ¬fit → Bad x) (rest : fit → ∀ a, Bad (f a)) : Bad (x >>= f) := by
  by_cases fits : fit
  · obtain ⟨a, rfl⟩ := succeeds fits
    exact rest fits a
  · exact (fails fits).bind f

namespace Params
open Vocabulary (labels)

variable {α : Type} [Vocabulary α] (ps : Params) (name : String)

/-- What is given under a name. -/
def given : List String := Text.shown (ps.values name)

/-- What is given under a name, texts with commas being many. -/
def pieces : List String :=
  Text.shown ((ps.values name).flatMap fun text => (Text.splitAll ',' text.toList).map String.ofList)

/-- The page that is asked for: the first given number, if it is one of 64 bits. -/
def pageNumber : Int64 := ((ps.given "page").head?.bind Text.int64?).getD 1

/-- The number of rows that is asked for, if it is one of 64 bits and allowed. -/
def pageSize (usual most : Int64) : Int64 :=
  (((ps.given "limit").head?.bind Text.int64?).filter fun n => 1 ≤ n.toInt ∧ n.toInt ≤ most.toInt).getD usual

theorem text?_eq : ps.text? name = (ps.given name).head? := by
  unfold text? given Text.shown
  rw [← Text.filter_isEmpty, List.head?_filter]

theorem flatMap_segments : (ps.values name).flatMap segments = ps.pieces name := by
  unfold pieces Text.shown
  rw [← Text.filter_isEmpty, List.map_flatMap, List.filter_flatMap]
  simp only [List.map_map]
  rfl

variable {ps}

theorem label_known {s : String} (trimmed : Text.trim s = s) (known : s ∈ labels α) :
    ∃ a : α, label name s = .ok a ∧ Vocabulary.label a = s := by
  obtain ⟨a, parses, labelled⟩ := Vocabulary.parse_known trimmed known
  exact ⟨a, by rw [label, parses]; rfl, labelled⟩

theorem label_unknown {s : String} (trimmed : Text.trim s = s) (unknown : s ∉ labels α) :
    Bad (label name s : Except ApiError α) :=
  ⟨_, by rw [label, Vocabulary.parse_unknown trimmed unknown]; rfl⟩

variable {name}

/-- A known label is read, and no label is no wish. -/
theorem one?_known (known : ∀ s ∈ (ps.given name).head?, s ∈ labels α) :
    ∃ wanted : Option α, ps.one? name = .ok wanted ∧ wanted.map Vocabulary.label = (ps.given name).head? := by
  unfold one?
  rw [text?_eq]
  cases first : (ps.given name).head? with
  | none => exact ⟨none, rfl, rfl⟩
  | some s =>
    have trimmed := Text.trim_of_mem_shown (List.mem_of_head? first)
    obtain ⟨a, parses, labelled⟩ := label_known name trimmed (known s first)
    exact ⟨some a, by rw [Option.mapM_some, parses]; rfl, by rw [Option.map_some, labelled]⟩

theorem one?_unknown (unknown : ¬∀ s ∈ (ps.given name).head?, s ∈ labels α) :
    Bad (ps.one? name : Except ApiError (Option α)) := by
  unfold one?
  rw [text?_eq]
  cases first : (ps.given name).head? with
  | none => exact absurd (by rw [first]; exact nofun) unknown
  | some s =>
    have trimmed := Text.trim_of_mem_shown (List.mem_of_head? first)
    have strange : s ∉ labels α := fun known => unknown (by rw [first]; rintro _ ⟨⟩; exact known)
    rw [Option.mapM_some]
    exact (label_unknown name trimmed strange).bind _

theorem mapM_label_known {texts : List String} (trimmed : ∀ s ∈ texts, Text.trim s = s)
    (known : ∀ s ∈ texts, s ∈ labels α) :
    ∃ wanted : List α, texts.mapM (label name) = .ok wanted ∧ wanted.map Vocabulary.label = texts := by
  induction texts with
  | nil => exact ⟨[], rfl, rfl⟩
  | cons s rest ih =>
    rw [List.forall_mem_cons] at trimmed known
    obtain ⟨a, parses, labelled⟩ := label_known name trimmed.1 known.1
    obtain ⟨wanted, others, labels⟩ := ih trimmed.2 known.2
    exact ⟨a :: wanted, by rw [List.mapM_cons, parses, others]; rfl, by rw [List.map_cons, labelled, labels]⟩

theorem mapM_label_unknown {texts : List String} (trimmed : ∀ s ∈ texts, Text.trim s = s)
    (unknown : ¬∀ s ∈ texts, s ∈ labels α) : Bad (texts.mapM (label name) : Except ApiError (List α)) := by
  induction texts with
  | nil => exact absurd nofun unknown
  | cons s rest ih =>
    rw [List.forall_mem_cons] at trimmed unknown
    rw [List.mapM_cons]
    refine bad_bind (fun known => ?_) (label_unknown name trimmed.1) fun known a => ?_
    · obtain ⟨a, parses, -⟩ := label_known name trimmed.1 known
      exact ⟨a, parses⟩
    · exact (ih trimmed.2 fun others => unknown ⟨known, others⟩).bind _

/-- All labels are read, in the order in which they stand. -/
theorem many_known (known : ∀ s ∈ ps.pieces name, s ∈ labels α) :
    ∃ wanted : List α, ps.many name = .ok wanted ∧ wanted.map Vocabulary.label = ps.pieces name := by
  unfold many
  rw [flatMap_segments]
  exact mapM_label_known (fun _ member => Text.trim_of_mem_shown member) known

theorem many_unknown (unknown : ¬∀ s ∈ ps.pieces name, s ∈ labels α) :
    Bad (ps.many name : Except ApiError (List α)) := by
  unfold many
  rw [flatMap_segments]
  exact mapM_label_unknown (fun _ member => Text.trim_of_mem_shown member) unknown

variable (ps)

theorem page_eq (usual most : Int64) : ps.page usual most =
    .new ((ps.given "page").head?.bind Text.int64?) ((ps.given "limit").head?.bind Text.int64?) usual most := by
  simp only [page, text?_eq]

theorem limit_page (usual most : Int64) : (ps.page usual most).limit = ps.pageSize usual most := by
  rw [page_eq]
  exact Query.Page.chooseLimit_eq _ _ _

/-- The page begins behind all rows of the pages before it, as far as 64 bits reach. -/
theorem offset_page (usual most : Int64) : (ps.page usual most).offset.toInt =
    max (-2 ^ 63) (min (2 ^ 63 - 1) ((max ps.pageNumber.toInt 1 - 1) * (ps.pageSize usual most).toInt)) := by
  rw [page_eq, Query.Page.toInt_offset_new, Query.Page.chooseLimit_eq]
  rfl

end Params
end AssetRegistry.Web
