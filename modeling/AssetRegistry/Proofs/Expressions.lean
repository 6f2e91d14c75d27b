import AssetRegistry.Text.Regex
import Mathlib.Logic.Basic

namespace AssetRegistry.Text.Regex

/-- Once or more, each time behind what has been matched before. -/
inductive Repeated (once : List Char → List Char → List Char → Prop) : List Char → List Char → List Char → Prop
  | one {before here after : List Char} : once before here after → Repeated once before here after
  | more {before here next after : List Char} : once before here (next ++ after) →
      Repeated once (before ++ here) next after → Repeated once before (here ++ next) after

/-- The expression matches `here` in the text `before ++ here ++ after`. The two ends are those of the whole text, not
those of its lines. -/
def Matches : Regex → List Char → List Char → List Char → Prop
  | nothing, _, here, _ => here = []
  | start, before, here, _ => before = [] ∧ here = []
  | finish, _, here, after => here = [] ∧ after = []
  | literal c, _, here, _ => here = [c]
  | range first last, _, here, _ => ∃ c, here = [c] ∧ first ≤ c ∧ c ≤ last
  | seq r s, before, here, after => ∃ front back, here = front ++ back ∧ r.Matches before front (back ++ after) ∧
      s.Matches (before ++ front) back after
  | optional r, before, here, after => here = [] ∨ r.Matches before here after
  | repeated r, before, here, after => Repeated r.Matches before here after

variable {r s : Regex} {before here after rest : List Char} {c : Char}

/-- Nothing is read exactly if the expression matches the empty text at the place. -/
theorem skips_iff (r : Regex) (before after : List Char) :
    r.skips before.isEmpty after.isEmpty = true ↔ r.Matches before [] after := by
  induction r generalizing before after with
  | nothing => exact iff_of_true rfl rfl
  | start => simp [skips, Matches]
  | finish => simp [skips, Matches]
  | literal c => simp [skips, Matches]
  | range first last => simp [skips, Matches]
  | seq r s ihr ihs =>
    rw [skips, Bool.and_eq_true, ihr, ihs]
    constructor
    · rintro ⟨first, second⟩
      exact ⟨[], [], rfl, first, by rwa [List.append_nil]⟩
    · rintro ⟨front, back, parts, first, second⟩
      obtain ⟨rfl, rfl⟩ := List.append_eq_nil_iff.1 parts.symm
      exact ⟨first, by rwa [List.append_nil] at second⟩
  | optional r ih => exact iff_of_true rfl (Or.inl rfl)
  | repeated r ih =>
    rw [skips, ih]
    constructor
    · exact .one
    · intro found
      generalize empty : ([] : List Char) = here at found
      induction found with
      | one once => exact empty ▸ once
      | more once _ _ =>
        obtain ⟨rfl, rfl⟩ := List.append_eq_nil_iff.1 empty.symm
        exact once

/-- Repetitions that match some character begin with one that does, if those before it match nothing. -/
theorem repeated_cons_iff : (repeated r).Matches before (c :: here) after ↔
    ∃ front back, here = front ++ back ∧ r.Matches before (c :: front) (back ++ after) ∧
      (optional (repeated r)).Matches (before ++ c :: front) back after := by
  constructor
  · intro found
    change Repeated r.Matches before (c :: here) after at found
    generalize whole : c :: here = text at found
    induction found with
    | one once => exact ⟨here, [], (List.append_nil here).symm, whole ▸ once, Or.inl rfl⟩
    | @more before first next after once others ih =>
      cases first with
      | nil =>
        rw [List.append_nil] at ih
        exact ih whole
      | cons d first =>
        obtain ⟨rfl, rfl⟩ := List.cons.inj whole
        exact ⟨first, next, rfl, once, Or.inr others⟩
  · rintro ⟨front, back, rfl, once, rfl | others⟩
    · rw [List.append_nil]
      exact .one once
    · exact .more once others

/-- A sequence that matches some character either reads it in its first part, or has a first part that matches nothing. -/
theorem seq_cons_iff : (seq r s).Matches before (c :: here) after ↔
    (∃ front back, here = front ++ back ∧ r.Matches before (c :: front) (back ++ after) ∧
      s.Matches (before ++ c :: front) back after) ∨
      r.Matches before [] (c :: (here ++ after)) ∧ s.Matches before (c :: here) after := by
  constructor
  · rintro ⟨front, back, parts, first, second⟩
    cases front with
    | nil =>
      obtain rfl : c :: here = back := parts
      rw [List.append_nil] at second
      exact Or.inr ⟨first, second⟩
    | cons d front =>
      obtain ⟨rfl, rfl⟩ := List.cons.inj parts
      exact Or.inl ⟨front, back, rfl, first, second⟩
  · rintro (⟨front, back, rfl, first, second⟩ | ⟨first, second⟩)
    · exact ⟨c :: front, back, rfl, first, second⟩
    · exact ⟨[], c :: here, rfl, first, by rwa [List.append_nil]⟩

/-- What is left of the first part stands before the second part. -/
theorem map_seq_iff {threads : List Regex} (left : ∀ front back, r.Matches before (c :: front) (back ++ after) ↔
      ∃ t ∈ threads, t.Matches (before ++ [c]) front (back ++ after)) :
    (∃ t ∈ threads.map (Regex.seq · s), t.Matches (before ++ [c]) here after) ↔
      ∃ front back, here = front ++ back ∧ r.Matches before (c :: front) (back ++ after) ∧
        s.Matches (before ++ c :: front) back after := by
  have behind (front : List Char) : before ++ c :: front = before ++ [c] ++ front := by simp
  constructor
  · rintro ⟨_, member, found⟩
    obtain ⟨t, among, rfl⟩ := List.mem_map.1 member
    obtain ⟨front, back, parts, first, second⟩ := found
    exact ⟨front, back, parts, (left front back).2 ⟨t, among, first⟩, behind front ▸ second⟩
  · rintro ⟨front, back, parts, first, second⟩
    obtain ⟨t, among, first⟩ := (left front back).1 first
    exact ⟨_, List.mem_map_of_mem among, front, back, parts, first, behind front ▸ second⟩

/-- An expression matches what begins with a character exactly if what is left of it matches what follows. -/
theorem step_iff : r.Matches before (c :: here) after ↔
    ∃ t ∈ r.step before.isEmpty c, t.Matches (before ++ [c]) here after := by
  induction r generalizing before here after with
  | nothing => simp [Matches, step]
  | start => simp [Matches, step]
  | finish => simp [Matches, step]
  | literal d =>
    rw [step]
    split
    next same => simp [Matches, same]
    next other => simp [Matches, other]
  | range first last =>
    rw [step]
    split
    next within =>
      have read : (∃ d, c :: here = [d] ∧ first ≤ d ∧ d ≤ last) ↔ here = [] :=
        ⟨fun ⟨d, same, _⟩ => (List.cons.inj same).2, fun empty => ⟨c, by rw [empty], within⟩⟩
      simpa [Matches] using read
    next outside =>
      refine iff_of_false ?_ (by simp)
      rintro ⟨d, same, within⟩
      exact outside ((List.cons.inj same).1 ▸ within)
  | seq r s ihr ihs =>
    have skipped : r.skips before.isEmpty false = true ↔ r.Matches before [] (c :: (here ++ after)) :=
      skips_iff r before (c :: (here ++ after))
    simp only [step, List.mem_append, or_and_right, exists_or]
    rw [seq_cons_iff, map_seq_iff fun _ _ => ihr, ← skipped, ihs]
    by_cases skips : r.skips before.isEmpty false = true
    · rw [if_pos skips]
      exact or_congr_right (and_iff_right skips)
    · rw [if_neg skips]
      exact or_congr_right (iff_of_false (fun both => skips both.1) (by simp))
  | optional r ih =>
    rw [step, ← ih]
    exact or_iff_right (List.cons_ne_nil c here)
  | repeated r ih => rw [repeated_cons_iff, step, map_seq_iff fun _ _ => ih]

/-- The first character decides which beginnings match: none of it is read, or it is, by one of the threads. -/
theorem begins_iff {threads : List Regex} : begins before.isEmpty threads rest = true ↔
    ∃ t ∈ threads, ∃ here after, rest = here ++ after ∧ t.Matches before here after := by
  induction rest generalizing before threads with
  | nil =>
    have skipped (t : Regex) : t.skips before.isEmpty true = true ↔ t.Matches before [] [] := skips_iff t before []
    simp only [begins, List.any_eq_true, skipped]
    refine exists_congr fun t => and_congr_right fun _ => ⟨fun found => ⟨[], [], rfl, found⟩, ?_⟩
    rintro ⟨here, after, parts, found⟩
    obtain ⟨rfl, rfl⟩ := List.append_eq_nil_iff.1 parts.symm
    exact found
  | cons c rest ih =>
    have skipped (t : Regex) : t.skips before.isEmpty false = true ↔ t.Matches before [] (c :: rest) :=
      skips_iff t before (c :: rest)
    have later (threads : List Regex) : begins false threads rest = true ↔
        ∃ t ∈ threads, ∃ here after, rest = here ++ after ∧ t.Matches (before ++ [c]) here after := by
      have moved : (before ++ [c]).isEmpty = false := by simp
      rw [← moved, ih]
    rw [begins, Bool.or_eq_true, List.any_eq_true, later]
    simp only [skipped, List.mem_flatMap]
    constructor
    · rintro (⟨t, among, found⟩ | ⟨left, ⟨t, among, member⟩, here, after, rfl, found⟩)
      · exact ⟨t, among, [], c :: rest, rfl, found⟩
      · exact ⟨t, among, c :: here, after, rfl, step_iff.2 ⟨left, member, found⟩⟩
    · rintro ⟨t, among, here, after, parts, found⟩
      cases here with
      | nil =>
        obtain rfl : c :: rest = after := parts
        exact Or.inl ⟨t, among, found⟩
      | cons d here =>
        obtain ⟨rfl, rfl⟩ := List.cons.inj parts
        obtain ⟨left, member, found⟩ := step_iff.1 found
        exact Or.inr ⟨left, ⟨t, among, member⟩, here, after, rfl, found⟩

/-- The expression is found if it matches somewhere in what is left. -/
theorem findsFrom_iff (before rest : List Char) : r.findsFrom before.isEmpty rest = true ↔
    ∃ more here after, rest = more ++ (here ++ after) ∧ r.Matches (before ++ more) here after := by
  induction rest generalizing before with
  | nil =>
    rw [findsFrom, begins_iff]
    simp only [List.mem_singleton, exists_eq_left]
    constructor
    · rintro ⟨here, after, parts, found⟩
      exact ⟨[], here, after, parts, by rwa [List.append_nil]⟩
    · rintro ⟨more, here, after, parts, found⟩
      obtain ⟨rfl, empty⟩ := List.append_eq_nil_iff.1 parts.symm
      rw [List.append_nil] at found
      exact ⟨here, after, empty.symm, found⟩
  | cons c rest ih =>
    have moved : (before ++ [c]).isEmpty = false := by simp
    rw [findsFrom, Bool.or_eq_true, begins_iff, ← moved, ih]
    simp only [List.mem_singleton, exists_eq_left]
    constructor
    · rintro (⟨here, after, parts, found⟩ | ⟨more, here, after, rfl, found⟩)
      · exact ⟨[], here, after, parts, by rwa [List.append_nil]⟩
      · exact ⟨c :: more, here, after, rfl, by simpa using found⟩
    · rintro ⟨more, here, after, parts, found⟩
      cases more with
      | nil =>
        rw [List.append_nil] at found
        exact Or.inl ⟨here, after, parts, found⟩
      | cons d more =>
        obtain ⟨rfl, rfl⟩ := List.cons.inj parts
        exact Or.inr ⟨more, here, after, rfl, by simpa using found⟩

/-- An expression is found in a text exactly if it matches some part of it. -/
theorem isFoundIn_iff {text : String} : r.isFoundIn text = true ↔
    ∃ before here after, text.toList = before ++ (here ++ after) ∧ r.Matches before here after :=
  findsFrom_iff [] text.toList

/-- A range that is repeated matches some characters of the range. -/
theorem matches_repeated_range_iff {first last : Char} : (repeated (range first last)).Matches before here after ↔
    here ≠ [] ∧ ∀ c ∈ here, first ≤ c ∧ c ≤ last := by
  constructor
  · intro found
    change Repeated (range first last).Matches before here after at found
    induction found with
    | one once =>
      obtain ⟨c, rfl, within⟩ := once
      exact ⟨List.cons_ne_nil c [], by simpa using within⟩
    | more once _ ih =>
      obtain ⟨c, rfl, within⟩ := once
      exact ⟨List.cons_ne_nil c _, List.forall_mem_cons.2 ⟨within, ih.2⟩⟩
  · rintro ⟨nonempty, within⟩
    change Repeated (range first last).Matches before here after
    induction here generalizing before with
    | nil => exact absurd rfl nonempty
    | cons c here ih =>
      rw [List.forall_mem_cons] at within
      have once (after : List Char) : (range first last).Matches before [c] after := ⟨c, rfl, within.1⟩
      by_cases more : here = []
      · exact more ▸ .one (once after)
      · exact .more (once _) (ih more within.2)

/-- Some characters, and behind them an expression. -/
def word (cs : List Char) (r : Regex) : Regex := cs.foldr (fun c rest => .seq (.literal c) rest) r

theorem matches_word_iff {cs : List Char} : (word cs r).Matches before here after ↔
    ∃ back, here = cs ++ back ∧ r.Matches (before ++ cs) back after := by
  induction cs generalizing before here with
  | nil => simp [word]
  | cons c cs ih =>
    have behind : before ++ c :: cs = before ++ [c] ++ cs := by simp
    constructor
    · rintro ⟨_, rest, rfl, rfl, found⟩
      obtain ⟨back, rfl, last⟩ := ih.1 found
      exact ⟨back, rfl, behind ▸ last⟩
    · rintro ⟨back, rfl, last⟩
      exact ⟨[c], cs ++ back, rfl, rfl, ih.2 ⟨back, rfl, behind ▸ last⟩⟩

theorem signs?_plain {c : Char} {rest : List Char} (plain : c ≠ '\\') :
    signs? (c :: rest) = (signs? rest).map ((if isMark c then .mark c else .literal c) :: ·) := by
  rw [signs?]
  · exact fun same _ => plain same
  · exact fun _ _ same _ => plain same

/-- The signs of two texts are those of both, if the first text does not end within an escape. -/
theorem signs?_append {xs ys : List Char} {signs : List Sign} (reads : signs? xs = some signs) :
    signs? (xs ++ ys) = (signs? ys).map (signs ++ ·) := by
  fun_induction signs? xs generalizing signs with
  | case1 =>
    obtain rfl := Option.some.inj reads
    simp
  | case2 => cases reads
  | case3 c rest marked ih =>
    obtain ⟨others, read, rfl⟩ := Option.map_eq_some_iff.1 reads
    rw [List.cons_append, List.cons_append, signs?, if_pos marked, ih read, Option.map_map]
    rfl
  | case4 => cases reads
  | case5 c rest last inner ih =>
    obtain ⟨others, read, rfl⟩ := Option.map_eq_some_iff.1 reads
    have plain : c ≠ '\\' := fun same => by
      cases rest with
      | nil => exact last same rfl
      | cons d rest => exact inner d rest same rfl
    rw [List.cons_append, signs?_plain plain, ih read, Option.map_map]
    rfl

/-- What is escaped reads as the characters themselves. -/
theorem signs?_escape (s : String) : signs? (escape s).toList = some (s.toList.map .literal) := by
  rw [escape, String.toList_ofList]
  induction s.toList with
  | nil => rfl
  | cons c cs ih =>
    rw [List.flatMap_cons, List.map_cons]
    split
    next marked =>
      rw [List.cons_append, List.cons_append, signs?, if_pos marked, List.nil_append, ih]
      rfl
    next unmarked =>
      have plain : c ≠ '\\' := fun same => unmarked (by rw [same]; rfl)
      rw [List.cons_append, signs?_plain plain, if_neg unmarked, List.nil_append, ih]
      rfl

/-- Characters that stand for themselves are read one behind the other. -/
theorem build?_literals (cs : List Char) (rest : List Sign) (parts : List Regex) (groups : List (List Regex)) :
    build? (cs.map .literal ++ rest) parts groups = build? rest ((cs.map .literal).reverse ++ parts) groups := by
  induction cs generalizing parts with
  | nil => rfl
  | cons c cs ih =>
    rw [List.map_cons, List.cons_append, build?, ih]
    simp

theorem inTurn_word (r : Regex) (cs : List Char) (parts : List Regex) :
    inTurn (r :: ((cs.map .literal).reverse ++ parts)) =
      parts.foldl (fun rest part => .seq part rest) (word cs (.seq r .nothing)) := by
  rw [inTurn, List.foldl_cons, List.foldl_append, List.foldl_reverse, List.foldr_map]
  rfl

end AssetRegistry.Text.Regex
