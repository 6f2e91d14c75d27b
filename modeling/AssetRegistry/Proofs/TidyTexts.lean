import AssetRegistry.Text.LetterCase

namespace AssetRegistry.Text

/-- There is something, and it neither begins nor ends with a blank. -/
structure TidyChars (cs : List Char) : Prop where
  nonempty : cs ≠ []
  first : ∀ c ∈ cs.head?, isBlank c = false
  last : ∀ c ∈ cs.getLast?, isBlank c = false

/-- A text with something in it and no blanks around it. -/
def Tidy (s : String) : Prop := TidyChars s.toList

theorem not_blank_of_letter {c : Char} (letter : 'a' ≤ c ∧ c ≤ 'z') : isBlank c = false := by
  simp only [Char.le_def, UInt32.le_iff_toNat_le] at letter
  have low : 97 ≤ c.toNat := letter.1
  have high : c.toNat ≤ 122 := letter.2
  simp only [isBlank, inRanges, blankRanges, List.any_cons, List.any_nil, Bool.or_eq_false_iff, Bool.and_eq_false_iff,
    decide_eq_false_iff_not, and_true]
  omega

theorem not_blank_of_dropWhile {cs : List Char} {c : Char} (first : c ∈ (cs.dropWhile isBlank).head?) :
    isBlank c = false := by
  have kept := List.head?_dropWhile_not isBlank cs
  rw [first] at kept
  simpa using kept

/-- What trimming leaves, if it leaves anything, is tidy. -/
theorem tidyChars_trimChars {cs : List Char} (nonempty : trimChars cs ≠ []) : TidyChars (trimChars cs) := by
  unfold trimChars at nonempty ⊢
  -- What is left after the leading blanks has lost only characters at its end.
  obtain ⟨blanks, split⟩ := List.dropWhile_suffix isBlank (l := (cs.dropWhile isBlank).reverse)
  have kept : ((cs.dropWhile isBlank).reverse.dropWhile isBlank).reverse ++ blanks.reverse = cs.dropWhile isBlank := by
    rw [← List.reverse_append, split, List.reverse_reverse]
  refine ⟨nonempty, fun c first => ?_, fun c last => ?_⟩
  · have leads : c ∈ (cs.dropWhile isBlank).head? := by
      rw [← kept, List.head?_append, first]
      rfl
    exact not_blank_of_dropWhile leads
  · rw [List.getLast?_reverse] at last
    exact not_blank_of_dropWhile last

theorem tidy_trim {s : String} (nonempty : trim s ≠ "") : Tidy (trim s) := by
  unfold Tidy
  rw [toList_trim]
  exact tidyChars_trimChars fun blank => nonempty (by rw [trim, blank, String.ofList_nil])

theorem dropWhile_of_first {cs : List Char} (first : ∀ c ∈ cs.head?, isBlank c = false) : cs.dropWhile isBlank = cs := by
  cases cs with
  | nil => rfl
  | cons c rest => exact List.dropWhile_cons_of_neg (by simp [first c rfl])

theorem TidyChars.trimChars {cs : List Char} (tidy : TidyChars cs) : trimChars cs = cs := by
  have last : ∀ c ∈ cs.reverse.head?, isBlank c = false := by simpa using tidy.last
  unfold Text.trimChars
  rw [dropWhile_of_first tidy.first, dropWhile_of_first last, List.reverse_reverse]

/-- A tidy text has nothing to trim. -/
theorem Tidy.trim {s : String} (tidy : Tidy s) : trim s = s := by
  unfold Text.trim
  rw [TidyChars.trimChars tidy, String.ofList_toList]

theorem TidyChars.beside {xs ys : List Char} (first : TidyChars xs) (second : TidyChars ys) :
    TidyChars (xs ++ ' ' :: ys) := by
  refine ⟨by simp, fun c member => ?_, fun c member => ?_⟩
  · obtain ⟨d, rest, rfl⟩ := List.exists_cons_of_ne_nil first.nonempty
    exact first.first c member
  · obtain ⟨d, rest, rfl⟩ := List.exists_cons_of_ne_nil second.nonempty
    exact second.last c (by simpa using member)

/-- The code points that a run yields, as a run of their own. -/
def CaseRun.image (run : CaseRun) : CaseRun where
  first := (run.first + run.shift).toNat
  last := (run.last + run.shift).toNat
  step := run.step
  shift := 0

/-- No code point is covered by both: the runs lie apart, or one of them between the steps of the other. -/
def CaseRun.apart (run other : CaseRun) : Bool :=
  run.last.blt other.first || other.last.blt run.first ||
    ((run.first.beq run.last || run.step % 2 == 0) && other.step % 2 == 0 && (run.first + other.first) % 2 == 1)

theorem CaseRun.not_covers_of_apart {run other : CaseRun} {point : Nat} (apart : run.apart other)
    (covers : run.covers point) : other.covers point = false := by
  refine Bool.eq_false_iff.2 fun met => ?_
  simp only [CaseRun.covers, Bool.and_eq_true, decide_eq_true_eq, beq_iff_eq] at covers met
  simp only [CaseRun.apart, Bool.or_eq_true, Bool.and_eq_true, Nat.blt_eq, Nat.beq_eq, beq_iff_eq] at apart
  obtain ⟨⟨lower, upper⟩, steps⟩ := covers
  obtain ⟨⟨lower', upper'⟩, steps'⟩ := met
  obtain (before | after) | ⟨⟨even, even'⟩, odd⟩ := apart
  · omega
  · omega
  · have whole : (point - other.first) % 2 = 0 :=
      Nat.mod_eq_zero_of_dvd (Nat.dvd_trans (Nat.dvd_of_mod_eq_zero even') (Nat.dvd_of_mod_eq_zero steps'))
    have stepped : (point - run.first) % 2 = 0 := by
      obtain single | even := even
      · omega
      · exact Nat.mod_eq_zero_of_dvd (Nat.dvd_trans (Nat.dvd_of_mod_eq_zero even) (Nat.dvd_of_mod_eq_zero steps))
    omega

/-- What lower case never yields: a letter that has a lower case of its own, or a blank. -/
def unsettled : List CaseRun :=
  ⟨0x130, 0x130, 1, 0⟩ :: lowerRuns ++ blankRanges.map fun range => ⟨range.1, range.2, 1, 0⟩

/-- What a run yields are characters. -/
def CaseRun.valid (run : CaseRun) : Bool :=
  0 ≤ run.first + run.shift && (run.last + run.shift < 0xD800 ||
    (0xDFFF < run.first + run.shift && run.last + run.shift < 0x110000))

theorem lowerRuns_valid : lowerRuns.all CaseRun.valid = true := by decide +kernel

/-- No run of the table leads to a blank, or to a letter that has a lower case of its own. -/
theorem lowerRuns_settle : (lowerRuns.all fun run => unsettled.all run.image.apart) = true := by decide +kernel

theorem toNat_ofNat {point : Nat} (valid : point < 0xD800 ∨ 0xDFFF < point ∧ point < 0x110000) :
    (Char.ofNat point).toNat = point := by
  have isChar : point.isValidChar := valid
  unfold Char.ofNat
  rw [dif_pos isChar]
  rfl

/-- A character that is its own lower case, also at the end of a word. -/
def Settled (c : Char) : Prop := c ≠ 'Σ' ∧ lowerChar c = [c]

instance (c : Char) : Decidable (Settled c) := inferInstanceAs (Decidable (_ ∧ _))

theorem settled_of_unmapped {c : Char} (plain : c.toNat ≠ 0x130) (unmapped : mappedPoint? lowerRuns c.toNat = none) :
    Settled c := by
  refine ⟨?_, ?_⟩
  · rintro rfl
    revert unmapped
    decide +kernel
  · rw [lowerChar, if_neg plain, unmapped]
    rfl

/-- What a run yields is settled and no blank. -/
theorem settled_of_mapped {point yielded : Nat} (mapped : mappedPoint? lowerRuns point = some yielded) :
    Settled (Char.ofNat yielded) ∧ isBlank (Char.ofNat yielded) = false := by
  obtain ⟨run, found, shifted⟩ := Option.map_eq_some_iff.1 mapped
  have covers := List.find?_some found
  have valid := List.all_eq_true.1 lowerRuns_valid run (List.mem_of_find?_eq_some found)
  have settle := List.all_eq_true.1 lowerRuns_settle run (List.mem_of_find?_eq_some found)
  rw [List.all_eq_true] at settle
  simp only [CaseRun.valid, Bool.and_eq_true, Bool.or_eq_true, decide_eq_true_eq] at valid
  have within : run.first ≤ point ∧ point ≤ run.last ∧ (point - run.first) % run.step = 0 := by
    simp only [CaseRun.covers, Bool.and_eq_true, decide_eq_true_eq, beq_iff_eq] at covers
    exact ⟨covers.1.1, covers.1.2, covers.2⟩
  have yields : (yielded : Int) = point + run.shift := by omega
  have isChar : (Char.ofNat yielded).toNat = yielded := toNat_ofNat (by omega)
  have image : run.image.covers yielded := by
    have steps : yielded - run.image.first = point - run.first := by
      show yielded - (run.first + run.shift).toNat = _
      omega
    simp only [CaseRun.covers, Bool.and_eq_true, decide_eq_true_eq, beq_iff_eq, steps]
    refine ⟨⟨?_, ?_⟩, within.2.2⟩
    · show (run.first + run.shift).toNat ≤ yielded
      omega
    · show yielded ≤ (run.last + run.shift).toNat
      omega
  have apart {other : CaseRun} (member : other ∈ unsettled) : other.covers yielded = false :=
    CaseRun.not_covers_of_apart (settle other member) image
  refine ⟨settled_of_unmapped ?_ ?_, ?_⟩
  · rw [isChar]
    rintro rfl
    have dotted : CaseRun.covers ⟨0x130, 0x130, 1, 0⟩ 0x130 = false := apart List.mem_cons_self
    cases dotted
  · rw [isChar, mappedPoint?, Option.map_eq_none_iff, List.find?_eq_none]
    intro other member
    simp [apart (List.mem_cons_of_mem _ (List.mem_append_left _ member))]
  · unfold isBlank inRanges
    rw [isChar, List.any_eq_false]
    intro range member
    have outside := apart (List.mem_cons_of_mem _ (List.mem_append_right _ (List.mem_map_of_mem member)))
    simpa [CaseRun.covers, Nat.mod_one] using outside

/-- What becomes of a dotted capital i, and of a capital sigma. -/
def irregular : List Char := ['i', Char.ofNat 0x307, 'ς', 'σ']

theorem settled_of_irregular {d : Char} (member : d ∈ irregular) : Settled d ∧ isBlank d = false := by
  have all : (irregular.all fun d => decide (Settled d) && !isBlank d) = true := by decide +kernel
  simpa using List.all_eq_true.1 all d member

/-- The lower case of a letter is settled: to lower it again changes nothing. -/
theorem settled_of_mem_lowerChar {c d : Char} (member : d ∈ lowerChar c) : Settled d := by
  unfold lowerChar at member
  by_cases dotted : c.toNat = 0x130
  · rw [if_pos dotted] at member
    exact (settled_of_irregular (List.mem_append_left ['ς', 'σ'] member)).1
  · rw [if_neg dotted] at member
    obtain rfl := List.mem_singleton.1 member
    cases mapped : mappedPoint? lowerRuns c.toNat with
    | none => exact settled_of_unmapped dotted mapped
    | some yielded => exact (settled_of_mapped mapped).1

theorem not_blank_of_mem_lowerChar {c d : Char} (letter : isBlank c = false) (member : d ∈ lowerChar c) :
    isBlank d = false := by
  unfold lowerChar at member
  by_cases dotted : c.toNat = 0x130
  · rw [if_pos dotted] at member
    exact (settled_of_irregular (List.mem_append_left ['ς', 'σ'] member)).2
  · rw [if_neg dotted] at member
    obtain rfl := List.mem_singleton.1 member
    cases mapped : mappedPoint? lowerRuns c.toNat with
    | none => exact letter
    | some yielded => exact (settled_of_mapped mapped).2

/-- What lower case makes of one character, given what stands around it. -/
def lowerAt (before : List Char) (c : Char) (after : List Char) : List Char :=
  if c = 'Σ' then (if meetsCased before && !meetsCased after then ['ς'] else ['σ']) else lowerChar c

theorem lowerAt_cases (before : List Char) (c : Char) (after : List Char) :
    lowerAt before c after = ['ς'] ∨ lowerAt before c after = ['σ'] ∨ lowerAt before c after = lowerChar c := by
  unfold lowerAt
  split
  · split
    · exact Or.inl rfl
    · exact Or.inr (Or.inl rfl)
  · exact Or.inr (Or.inr rfl)

theorem lowerFrom_cons (before : List Char) (c : Char) (after : List Char) :
    lowerFrom before (c :: after) = lowerAt before c after ++ lowerFrom (c :: before) after := rfl

theorem settled_of_mem_lowerFrom {before cs : List Char} {d : Char} (member : d ∈ lowerFrom before cs) : Settled d := by
  induction cs generalizing before with
  | nil => cases member
  | cons c rest ih =>
    rw [lowerFrom_cons, List.mem_append] at member
    obtain here | later := member
    · obtain same | same | same := lowerAt_cases before c rest <;> rw [same] at here
      · exact (settled_of_irregular (by simp [irregular, List.mem_singleton.1 here])).1
      · exact (settled_of_irregular (by simp [irregular, List.mem_singleton.1 here])).1
      · exact settled_of_mem_lowerChar here
    · exact ih later

theorem lowerFrom_of_settled {cs : List Char} (settled : ∀ c ∈ cs, Settled c) (before : List Char) :
    lowerFrom before cs = cs := by
  induction cs generalizing before with
  | nil => rfl
  | cons c rest ih =>
    obtain ⟨other, same⟩ := settled c List.mem_cons_self
    rw [lowerFrom_cons, lowerAt, if_neg other, same, ih fun c member => settled c (List.mem_cons_of_mem _ member)]
    rfl

/-- To lower a text twice is to lower it once. -/
theorem lower_lower (s : String) : lower (lower s) = lower s := by
  have settled : ∀ c ∈ (lower s).toList, Settled c := by
    intro c member
    rw [lower, String.toList_ofList] at member
    exact settled_of_mem_lowerFrom member
  rw [lower, lowerFrom_of_settled settled, String.ofList_toList]

theorem lowerAt_ne_nil (before : List Char) (c : Char) (after : List Char) : lowerAt before c after ≠ [] := by
  obtain same | same | same := lowerAt_cases before c after <;> rw [same]
  · simp
  · simp
  · unfold lowerChar
    split <;> simp

/-- To lower a letter never makes a blank. -/
theorem not_blank_of_mem_lowerAt {before after : List Char} {c d : Char} (letter : isBlank c = false)
    (member : d ∈ lowerAt before c after) : isBlank d = false := by
  obtain same | same | same := lowerAt_cases before c after <;> rw [same] at member
  · exact (settled_of_irregular (by simp [irregular, List.mem_singleton.1 member])).2
  · exact (settled_of_irregular (by simp [irregular, List.mem_singleton.1 member])).2
  · exact not_blank_of_mem_lowerChar letter member

theorem TidyChars.lowerFrom {cs : List Char} (tidy : TidyChars cs) (before : List Char) :
    TidyChars (lowerFrom before cs) := by
  have last : ∀ d ∈ (Text.lowerFrom before cs).getLast?, isBlank d = false := by
    have ends := tidy.last
    clear tidy
    induction cs generalizing before with
    | nil => nofun
    | cons c rest ih =>
      intro d
      rw [lowerFrom_cons, List.getLast?_append]
      cases rest with
      | nil => exact fun member => not_blank_of_mem_lowerAt (ends c rfl) (List.mem_of_getLast? member)
      | cons next rest =>
        intro member
        cases later : (Text.lowerFrom (c :: before) (next :: rest)).getLast? with
        | none =>
          rw [List.getLast?_eq_none_iff, lowerFrom_cons, List.append_eq_nil_iff] at later
          exact absurd later.1 (lowerAt_ne_nil _ _ _)
        | some e =>
          rw [later] at member
          exact ih (c :: before) (by simpa using ends) d (later.trans member)
  cases cs with
  | nil => exact absurd rfl tidy.nonempty
  | cons c rest =>
    obtain ⟨e, more, here⟩ := List.exists_cons_of_ne_nil (lowerAt_ne_nil before c rest)
    have first : isBlank e = false := not_blank_of_mem_lowerAt (tidy.first c rfl) (here ▸ List.mem_cons_self)
    rw [lowerFrom_cons, here] at last ⊢
    exact ⟨nofun, by simpa using first, last⟩

/-- A tidy text is tidy in lower case. -/
theorem Tidy.lower {s : String} (tidy : Tidy s) : Tidy (lower s) := by
  unfold Tidy Text.lower
  rw [String.toList_ofList]
  exact TidyChars.lowerFrom tidy []

end AssetRegistry.Text
