namespace AssetRegistry.Text

/-- Splits at every occurrence of `separator`; there is always at least one piece. -/
def splitAll {α : Type} [BEq α] (separator : α) : List α → List (List α)
  | [] => [[]]
  | x :: rest =>
    if x == separator then [] :: splitAll separator rest
    else match splitAll separator rest with
      | [] => [[x]]
      | piece :: pieces => (x :: piece) :: pieces

/-- Splits at the first occurrence of `separator`; without one the second part is empty. -/
def splitFirst {α : Type} [BEq α] (separator : α) (xs : List α) : List α × List α :=
  (xs.takeWhile (· != separator), (xs.dropWhile (· != separator)).drop 1)

/-- Splits at the last occurrence of `separator`, if there is one. -/
def splitLast {α : Type} [BEq α] (separator : α) (xs : List α) : Option (List α × List α) :=
  let after := xs.reverse.takeWhile (· != separator)
  match xs.reverse.drop after.length with
  | _ :: before => some (before.reverse, after.reverse)
  | [] => none

variable {α : Type} [BEq α]

theorem splitAll_ne_nil (separator : α) (xs : List α) : splitAll separator xs ≠ [] := by
  cases xs with
  | nil => simp [splitAll]
  | cons x rest =>
    rw [splitAll]
    split
    · simp
    · split <;> simp

variable [LawfulBEq α]

theorem takeWhile_of_absent {separator : α} {xs : List α} (absent : separator ∉ xs) (rest : List α) :
    (xs ++ rest).takeWhile (· != separator) = xs ++ rest.takeWhile (· != separator) := by
  refine List.takeWhile_append_of_pos fun x member => ?_
  rw [bne_iff_ne]
  rintro rfl
  exact absent member

theorem dropWhile_of_absent {separator : α} {xs : List α} (absent : separator ∉ xs) (rest : List α) :
    (xs ++ rest).dropWhile (· != separator) = rest.dropWhile (· != separator) := by
  refine List.dropWhile_append_of_pos fun x member => ?_
  rw [bne_iff_ne]
  rintro rfl
  exact absent member

/-- Up to a separator, or up to the end, is what holds none. -/
theorem takeWhile_of_edge {separator : α} {xs rest : List α} (absent : separator ∉ xs)
    (edge : ∀ x ∈ rest.head?, x = separator) : (xs ++ rest).takeWhile (· != separator) = xs := by
  rw [takeWhile_of_absent absent]
  cases rest with
  | nil => exact List.append_nil xs
  | cons x rest => rw [edge x rfl, List.takeWhile_cons_of_neg (by simp), List.append_nil]

theorem dropWhile_of_edge {separator : α} {xs rest : List α} (absent : separator ∉ xs)
    (edge : ∀ x ∈ rest.head?, x = separator) : (xs ++ rest).dropWhile (· != separator) = rest := by
  rw [dropWhile_of_absent absent]
  cases rest with
  | nil => rfl
  | cons x rest => rw [edge x rfl, List.dropWhile_cons_of_neg (by simp)]

theorem splitFirst_append {separator : α} {before : List α} (absent : separator ∉ before) (after : List α) :
    splitFirst separator (before ++ separator :: after) = (before, after) := by
  unfold splitFirst
  rw [takeWhile_of_edge absent (by simp), dropWhile_of_edge absent (by simp), List.drop_one, List.tail_cons]

theorem splitAll_append (separator : α) (xs ys : List α) :
    splitAll separator (xs ++ separator :: ys) = splitAll separator xs ++ splitAll separator ys := by
  induction xs with
  | nil => simp [splitAll]
  | cons x rest ih =>
    rw [List.cons_append, splitAll, splitAll, ih]
    by_cases cut : x == separator
    · simp [cut]
    · rw [if_neg cut, if_neg cut]
      cases split : splitAll separator rest with
      | nil => exact absurd split (splitAll_ne_nil separator rest)
      | cons piece pieces => rfl

theorem splitAll_of_not_mem {separator : α} {xs : List α} (absent : separator ∉ xs) : splitAll separator xs = [xs] := by
  induction xs with
  | nil => rfl
  | cons x rest ih =>
    rw [List.mem_cons, not_or] at absent
    rw [splitAll, ih absent.2, if_neg (by simpa using Ne.symm absent.1)]

theorem intercalate_splitAll (separator : α) (xs : List α) :
    List.intercalate [separator] (splitAll separator xs) = xs := by
  induction xs with
  | nil => rfl
  | cons x rest ih =>
    rw [splitAll]
    cases split : splitAll separator rest with
    | nil => exact absurd split (splitAll_ne_nil separator rest)
    | cons piece pieces =>
      rw [split] at ih
      by_cases cut : x == separator
      · obtain rfl := eq_of_beq cut
        simpa [List.intercalate] using ih
      · rw [if_neg cut]
        cases pieces <;> simpa [List.intercalate] using ih

theorem not_mem_of_mem_splitAll {separator : α} {xs piece : List α} (member : piece ∈ splitAll separator xs) :
    separator ∉ piece := by
  induction xs generalizing piece with
  | nil => simp_all [splitAll]
  | cons x rest ih =>
    rw [splitAll] at member
    cases split : splitAll separator rest with
    | nil => exact absurd split (splitAll_ne_nil separator rest)
    | cons first pieces =>
      have later {piece : List α} (member : piece ∈ first :: pieces) : separator ∉ piece := ih (split ▸ member)
      rw [split] at member
      by_cases cut : x == separator
      · rw [if_pos cut] at member
        rcases List.mem_cons.1 member with rfl | member
        · simp
        · exact later member
      · rw [if_neg cut] at member
        rcases List.mem_cons.1 member with rfl | member
        · have other : separator ≠ x := by simpa using Ne.symm (by simpa using cut)
          simpa [other] using later List.mem_cons_self
        · exact later (List.mem_cons_of_mem _ member)

end AssetRegistry.Text
