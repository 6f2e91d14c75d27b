import AssetRegistry.Proofs.StaffAddresses

namespace AssetRegistry
open Text

/-- A name with a capital of ASCII at its beginning. -/
def capitalized (name : String) : String :=
  match name.toList with
  | [] => ""
  | c :: rest => .ofList (c.toUpper :: rest)

/-- What stands before the first at sign of an address. -/
def localPart (address : String) : String := .ofList (address.toList.takeWhile (· != '@'))

/-- A shown name in lower case, with points for its spaces. -/
def pointed (name : String) : String := .ofList ((lower name).toList.map fun c => if c = ' ' then '.' else c)

/-- No space stands at the ends, and none beside another. -/
structure SinglySpaced (s : String) : Prop where
  first : s.toList.head? ≠ some ' '
  last : s.toList.getLast? ≠ some ' '
  alone : ¬[' ', ' '] <:+: s.toList

/-- A letter and its capital are told apart from all marks, and the capital goes back to the letter. -/
theorem case_of_letter {c : Char} (letter : 'a' ≤ c ∧ c ≤ 'z') : upperChar c = [c.toUpper] ∧
    ∀ d ∈ [c, c.toUpper], lowerChar d = [c] ∧ d ≠ 'Σ' ∧ isBlank d = false := by
  have all : ((List.range 26).map fun n => Char.ofNat (97 + n)).all (fun c => upperChar c = [c.toUpper] ∧
      [c, c.toUpper].all fun d => lowerChar d = [c] ∧ d ≠ 'Σ' ∧ isBlank d = false) = true := by decide +kernel
  simp only [Char.le_def, UInt32.le_iff_toNat_le] at letter
  have low : 97 ≤ c.toNat := letter.1
  have high : c.toNat ≤ 122 := letter.2
  have among : c ∈ (List.range 26).map fun n => Char.ofNat (97 + n) := by
    refine List.mem_map.2 ⟨c.toNat - 97, List.mem_range.2 (by omega), ?_⟩
    rw [Nat.add_sub_cancel' low, Char.ofNat_toNat]
  obtain ⟨upper, lower⟩ := of_decide_eq_true (List.all_eq_true.1 all c among)
  exact ⟨upper, fun d either => of_decide_eq_true (List.all_eq_true.1 lower d either)⟩

/-- Without a capital sigma the letters do not depend on each other. -/
theorem lowerFrom_eq_flatMap {cs : List Char} (plain : ∀ c ∈ cs, c ≠ 'Σ') (before : List Char) :
    lowerFrom before cs = cs.flatMap lowerChar := by
  induction cs generalizing before with
  | nil => rfl
  | cons c rest ih =>
    rw [List.forall_mem_cons] at plain
    rw [lowerFrom_cons, lowerAt, if_neg plain.1, ih plain.2, List.flatMap_cons]

theorem toList_pointed {shown : String} (plain : ∀ c ∈ shown.toList, c ≠ 'Σ') :
    (pointed shown).toList = (shown.toList.flatMap lowerChar).map fun c => if c = ' ' then '.' else c := by
  rw [pointed, String.toList_ofList, lower, String.toList_ofList, lowerFrom_eq_flatMap plain]

namespace IsName
variable {name : String} (isName : IsName name)
include isName

theorem exists_cons : ∃ c rest, name.toList = c :: rest ∧ ('a' ≤ c ∧ c ≤ 'z') ∧ ∀ d ∈ rest, 'a' ≤ d ∧ d ≤ 'z' := by
  obtain ⟨nonempty, letters⟩ := isName
  cases spelled : name.toList with
  | nil => exact absurd (String.toList_eq_nil_iff.1 spelled) nonempty
  | cons c rest =>
    rw [spelled, List.forall_mem_cons] at letters
    exact ⟨c, rest, rfl, letters⟩

theorem capitalizeChars_toList : capitalizeChars name.toList = (capitalized name).toList := by
  obtain ⟨c, rest, spelled, letter, -⟩ := isName.exists_cons
  unfold capitalized
  rw [spelled]
  show upperChar c ++ rest = _
  rw [(case_of_letter letter).1, String.toList_ofList]
  rfl

/-- The characters of a capitalized name. -/
theorem plain_capitalized : (capitalized name).toList ≠ [] ∧
    (∀ d ∈ (capitalized name).toList, d ≠ 'Σ' ∧ isBlank d = false) ∧
    (capitalized name).toList.flatMap lowerChar = name.toList := by
  obtain ⟨c, rest, spelled, letter, letters⟩ := isName.exists_cons
  have capital := (case_of_letter letter).2 c.toUpper (by simp)
  have others {d : Char} (member : d ∈ rest) := (case_of_letter (letters d member)).2 d (by simp)
  have lowered : rest.flatMap lowerChar = rest := by
    rw [List.flatMap_def, List.map_congr_left fun d member => (others member).1, ← List.flatMap_def,
      List.flatMap_singleton']
  unfold capitalized
  rw [spelled, String.toList_ofList]
  refine ⟨List.cons_ne_nil _ _, ?_, ?_⟩
  · rw [List.forall_mem_cons]
    exact ⟨capital.2, fun d member => (others member).2⟩
  · rw [List.flatMap_cons, capital.1, lowered]
    rfl

theorem undivided : splitAll '.' name.toList = [name.toList] := splitAll_of_not_mem (isName.not_mem (by decide))

theorem map_pointed : (name.toList.map fun c => if c = ' ' then '.' else c) = name.toList := by
  refine (List.map_congr_left fun c member => ?_).trans (List.map_id _)
  rw [if_neg fun space => isName.not_mem (by decide) (space ▸ member)]
  rfl

theorem space_not_mem : ' ' ∉ (capitalized name).toList := fun member =>
  absurd (isName.plain_capitalized.2.1 ' ' member).2 (by decide)

theorem tidy_capitalized : TidyChars (capitalized name).toList where
  nonempty := isName.plain_capitalized.1
  first c member := (isName.plain_capitalized.2.1 c (List.mem_of_head? member)).2
  last c member := (isName.plain_capitalized.2.1 c (List.mem_of_getLast? member)).2

end IsName

/-- One name or two, with a point between them where they are written and a space where they are shown. -/
inductive ShownAs : (written shown : String) → Prop
  | single {name : String} : IsName name → ShownAs name (capitalized name)
  | full {first last : String} : IsName first → IsName last →
      ShownAs (first ++ "." ++ last) (capitalized first ++ " " ++ capitalized last)

theorem localPart_append {name : String} (absent : '@' ∉ name.toList) (domain : String) :
    localPart (name ++ "@" ++ domain) = name := by
  have parts : (name ++ "@" ++ domain).toList = name.toList ++ '@' :: domain.toList := by simp
  rw [localPart, parts, takeWhile_of_edge absent (by simp), String.ofList_toList]

/-- The names between the points of an address are shown capitalized, with spaces between them. -/
theorem displayName_of_names {address : String} {names : List String} (areNames : ∀ name ∈ names, IsName name)
    (divided : splitAll '.' (localPart address).toList = names.map String.toList) :
    displayName address = String.intercalate " " (names.map capitalized) := by
  have kept : (names.map String.toList).filter (fun part => !part.isEmpty) = names.map String.toList := by
    refine List.filter_eq_self.2 fun part member => ?_
    obtain ⟨name, among, rfl⟩ := List.mem_map.1 member
    obtain ⟨c, rest, spelled, -⟩ := (areNames name among).exists_cons
    rw [spelled]
    rfl
  have shown : ∀ name ∈ names, String.ofList (capitalizeChars name.toList) = capitalized name := fun name among => by
    rw [(areNames name among).capitalizeChars_toList, String.ofList_toList]
  rw [localPart, String.toList_ofList] at divided
  unfold displayName
  dsimp only
  rw [divided, kept, List.map_map]
  exact congrArg _ (List.map_congr_left shown)

/-- An address is its local part at the domain, and is shown by the names in the local part. -/
theorem AddressAt.shownAs {domain address : String} (isAddress : AddressAt domain address) :
    address = localPart address ++ "@" ++ domain ∧ ShownAs (localPart address) (displayName address) := by
  cases isAddress with
  | @single name isName =>
    have before := localPart_append (isName.not_mem (by decide)) domain
    have shown : displayName (name ++ "@" ++ domain) = String.intercalate " " ([name].map capitalized) :=
      displayName_of_names (by simpa using isName) (by rw [before, isName.undivided]; rfl)
    rw [before, shown]
    exact ⟨rfl, .single isName⟩
  | @full first last isFirst isLast =>
    have absent : '@' ∉ (first ++ "." ++ last).toList := by
      simp [isFirst.not_mem (c := '@') (by decide), isLast.not_mem (c := '@') (by decide)]
    have before := localPart_append absent domain
    have divided : splitAll '.' (first ++ "." ++ last).toList = [first.toList, last.toList] := by
      have parts : (first ++ "." ++ last).toList = first.toList ++ '.' :: last.toList := by simp
      rw [parts, splitAll_append, isFirst.undivided, isLast.undivided, List.singleton_append]
    have shown : displayName (first ++ "." ++ last ++ "@" ++ domain) =
        String.intercalate " " ([first, last].map capitalized) :=
      displayName_of_names (by simpa using ⟨isFirst, isLast⟩) (by rw [before, divided]; rfl)
    rw [before, shown]
    exact ⟨rfl, .full isFirst isLast⟩

/-- Two words with a space between them. -/
theorem singlySpaced_beside {cs ds : List Char} (nonempty : cs ≠ []) (nonempty' : ds ≠ []) (absent : ' ' ∉ cs)
    (absent' : ' ' ∉ ds) : SinglySpaced (.ofList (cs ++ ' ' :: ds)) := by
  obtain ⟨c, cs, rfl⟩ := List.exists_cons_of_ne_nil nonempty
  obtain ⟨d, ds, rfl⟩ := List.exists_cons_of_ne_nil nonempty'
  refine ⟨?_, ?_, ?_⟩ <;> rw [String.toList_ofList]
  · intro first
    exact absent (Option.some.inj first ▸ List.mem_cons_self)
  · intro last
    have ends : (d :: ds).getLast? = some ' ' := by simpa [List.getLast?_cons] using last
    exact absent' (List.mem_of_getLast? ends)
  · intro doubled
    have two : 2 ≤ List.count ' ' (c :: cs ++ ' ' :: d :: ds) := doubled.sublist.count_le ' '
    rw [List.count_append, List.count_cons_self, List.count_eq_zero_of_not_mem absent,
      List.count_eq_zero_of_not_mem absent'] at two
    omega

namespace ShownAs
variable {written shown : String} (shownAs : ShownAs written shown)
include shownAs

/-- The shown name has single spaces between its parts, and none around them. -/
theorem singlySpaced : shown ≠ "" ∧ SinglySpaced shown := by
  cases shownAs with
  | single isName =>
    have nonempty := isName.plain_capitalized.1
    have absent := isName.space_not_mem
    refine ⟨fun empty => nonempty (by rw [empty]; rfl), ?_, ?_, ?_⟩
    · exact fun first => absent (List.mem_of_head? first)
    · exact fun last => absent (List.mem_of_getLast? last)
    · exact fun doubled => absent (doubled.subset List.mem_cons_self)
  | @full first last isFirst isLast =>
    have nonempty := isFirst.plain_capitalized.1
    have nonempty' := isLast.plain_capitalized.1
    have spelled : .ofList ((capitalized first).toList ++ ' ' :: (capitalized last).toList) =
        capitalized first ++ " " ++ capitalized last := by
      rw [← String.toList_inj]
      simp
    refine ⟨fun empty => ?_, ?_⟩
    · simpa using congrArg String.toList empty
    · rw [← spelled]
      exact singlySpaced_beside nonempty nonempty' isFirst.space_not_mem isLast.space_not_mem

/-- What is written is what is shown, in lower case and with a point for the space. -/
theorem pointed_eq : pointed shown = written := by
  cases shownAs with
  | single isName =>
    obtain ⟨-, plain, lowered⟩ := isName.plain_capitalized
    rw [← String.toList_inj, toList_pointed fun c member => (plain c member).1, lowered, isName.map_pointed]
  | @full first last isFirst isLast =>
    obtain ⟨-, plain, lowered⟩ := isFirst.plain_capitalized
    obtain ⟨-, plain', lowered'⟩ := isLast.plain_capitalized
    have spelled : (capitalized first ++ " " ++ capitalized last).toList =
        (capitalized first).toList ++ ' ' :: (capitalized last).toList := by simp
    have regular : ∀ c ∈ (capitalized first ++ " " ++ capitalized last).toList, c ≠ 'Σ' := by
      rw [spelled]
      intro c member
      obtain here | here := List.mem_append.1 member
      · exact (plain c here).1
      · obtain rfl | here := List.mem_cons.1 here
        · decide
        · exact (plain' c here).1
    have space : lowerChar ' ' = [' '] := by decide +kernel
    rw [← String.toList_inj, toList_pointed regular, spelled, List.flatMap_append, List.flatMap_cons, lowered, lowered',
      space, List.map_append, isFirst.map_pointed, List.map_append, isLast.map_pointed]
    simp

theorem tidy : Tidy shown := by
  cases shownAs with
  | single isName => exact isName.tidy_capitalized
  | @full first last isFirst isLast =>
    have spelled : (capitalized first ++ " " ++ capitalized last).toList =
        (capitalized first).toList ++ ' ' :: (capitalized last).toList := by simp
    unfold Tidy
    rw [spelled]
    exact isFirst.tidy_capitalized.beside isLast.tidy_capitalized

end ShownAs

namespace EmailPolicy

/-- The name made of an address that is let in has no blanks around it. -/
theorem tidy_displayName {policy : EmailPolicy} {address email : String}
    (validated : policy.validate address = .ok email) : Tidy (displayName email) :=
  (validate_eq_ok_iff.1 validated).2.shownAs.2.tidy

/-- The name shown for an address that is let in is its one name or its two names capitalized, the two with a single
space between them. It gives back what stands before the at sign, so that no two addresses of a domain are shown alike. -/
theorem names_tell_addresses {domain address email : String}
    (validated : (ofDomain domain).validate address = .ok email) :
    email = localPart email ++ "@" ++ lower (trim domain) ∧ ShownAs (localPart email) (displayName email) ∧
    displayName email ≠ "" ∧ SinglySpaced (displayName email) ∧
    pointed (displayName email) = localPart email ∧
    ∀ address' email', (ofDomain domain).validate address' = .ok email' →
      displayName email' = displayName email → email' = email := by
  have told {address email : String} (validated : (ofDomain domain).validate address = .ok email) :=
    (validate_eq_ok_iff.1 validated).2.shownAs
  obtain ⟨whole, shownAs⟩ := told validated
  obtain ⟨nonempty, spaced⟩ := shownAs.singlySpaced
  refine ⟨whole, shownAs, nonempty, spaced, shownAs.pointed_eq, fun address' email' validated' same => ?_⟩
  obtain ⟨whole', shownAs'⟩ := told validated'
  have names : localPart email' = localPart email := by rw [← shownAs'.pointed_eq, ← shownAs.pointed_eq, same]
  rw [whole', names, ← whole]

/-- A name shown with its capitals, whatever the case in which its address was given. -/
theorem annLee_shown : (ofDomain "acme.com").validate " Ann.LEE@Acme.com" = .ok "ann.lee@acme.com" ∧
    displayName "ann.lee@acme.com" = "Ann Lee" ∧ pointed "Ann Lee" = "ann.lee" := by
  have validated : (ofDomain "acme.com").validate " Ann.LEE@Acme.com" = .ok "ann.lee@acme.com" :=
    validate_eq_ok_iff.2 ⟨by decide +kernel, accepts_iff.1 (by decide +kernel)⟩
  have shown : displayName "ann.lee@acme.com" = "Ann Lee" := by decide +kernel
  obtain ⟨-, -, -, -, back, -⟩ := names_tell_addresses validated
  rw [shown] at back
  exact ⟨validated, shown, back.trans (by decide +kernel)⟩

end EmailPolicy
end AssetRegistry
