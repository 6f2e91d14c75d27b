import AssetRegistry.Query.Condition
import Mathlib.Data.List.Infix

namespace AssetRegistry.Query

namespace Pattern

/-- What a pattern is read as. -/
inductive Piece where
  /-- Any number of characters. -/
  | run
  /-- Any one character. -/
  | single
  | literal (c : Char)
  deriving DecidableEq

/-- The pieces of a pattern. There are none where the pattern ends in an unfinished escape. -/
def pieces? : List Char → Option (List Piece)
  | [] => some []
  | '%' :: rest => (pieces? rest).map (.run :: ·)
  | '_' :: rest => (pieces? rest).map (.single :: ·)
  | ['\\'] => none
  | '\\' :: c :: rest => (pieces? rest).map (.literal c :: ·)
  | c :: rest => (pieces? rest).map (.literal c :: ·)

/-- The pieces match the text, where characters that fold to the same one are taken for one another. -/
inductive Matches (fold : Char → Char) : List Piece → List Char → Prop
  | nil : Matches fold [] []
  | run {pieces : List Piece} {rest : List Char} (before : List Char) :
      Matches fold pieces rest → Matches fold (.run :: pieces) (before ++ rest)
  | single {pieces : List Piece} {rest : List Char} (c : Char) :
      Matches fold pieces rest → Matches fold (.single :: pieces) (c :: rest)
  | literal {pieces : List Piece} {rest : List Char} {c d : Char} :
      fold d = fold c → Matches fold pieces rest → Matches fold (.literal c :: pieces) (d :: rest)

/-- The text is like the pattern up to a folding; a pattern that ends in an unfinished escape is like nothing. -/
def Like (fold : Char → Char) (pattern text : List Char) : Prop :=
  ∃ pieces, pieces? pattern = some pieces ∧ Matches fold pieces text

variable {fold : Char → Char} {pieces : List Piece} {text : List Char}

theorem matches_run_iff :
    Matches fold (.run :: pieces) text ↔ ∃ before rest, text = before ++ rest ∧ Matches fold pieces rest := by
  constructor
  · intro found
    cases found with
    | run before found => exact ⟨before, _, rfl, found⟩
  · rintro ⟨before, rest, rfl, found⟩
    exact .run before found

/-- The last run takes all that is left. -/
theorem matches_last_run (text : List Char) : Matches fold [.run] text :=
  matches_run_iff.2 ⟨text, [], (List.append_nil text).symm, .nil⟩

/-- Literal pieces match what folds as they do. -/
theorem matches_literals_iff {cs : List Char} :
    Matches fold (cs.map .literal ++ pieces) text ↔
      ∃ here rest, text = here ++ rest ∧ here.map fold = cs.map fold ∧ Matches fold pieces rest := by
  induction cs generalizing text with
  | nil =>
    constructor
    · intro found
      exact ⟨[], text, rfl, rfl, found⟩
    · rintro ⟨here, rest, rfl, same, found⟩
      obtain rfl := List.map_eq_nil_iff.1 same
      exact found
  | cons c cs ih =>
    constructor
    · intro found
      cases found with
      | @literal _ _ _ d same found =>
        obtain ⟨here, rest, rfl, others, found⟩ := ih.1 found
        exact ⟨d :: here, rest, rfl, by rw [List.map_cons, List.map_cons, same, others], found⟩
    · rintro ⟨here, rest, rfl, same, found⟩
      obtain ⟨d, others, rfl, first, more⟩ := List.map_eq_cons_iff.1 same
      exact .literal first (ih.2 ⟨others, rest, rfl, more, found⟩)

theorem pieces?_plain {c : Char} (plain : isPatternMark c = false) (rest : List Char) :
    pieces? (c :: rest) = (pieces? rest).map (.literal c :: ·) := by
  simp only [isPatternMark, Bool.or_eq_false_iff, decide_eq_false_iff_not] at plain
  obtain ⟨⟨percent, underscore⟩, backslash⟩ := plain
  rw [pieces?]
  · exact percent
  · exact underscore
  · exact fun same _ => backslash same
  · exact fun _ _ same _ => backslash same

/-- A term with its marks escaped reads as the literal term. -/
theorem pieces?_escaped (term rest : List Char) :
    pieces? ((term.flatMap fun c => if isPatternMark c then ['\\', c] else [c]) ++ rest) =
      (pieces? rest).map (term.map .literal ++ ·) := by
  induction term with
  | nil => simp
  | cons c term ih =>
    rw [List.flatMap_cons, List.append_assoc]
    cases marked : isPatternMark c with
    | true =>
      show pieces? ('\\' :: c :: (_ ++ rest)) = _
      rw [pieces?, ih, Option.map_map]
      rfl
    | false =>
      show pieces? (c :: (_ ++ rest)) = _
      rw [pieces?_plain marked, ih, Option.map_map]
      rfl

/-- The pattern of a term is the term itself between two percent signs, whatever marks the term holds. -/
theorem pieces?_likePattern (term : String) :
    pieces? (likePattern term).toList = some (.run :: (term.toList.map .literal ++ [.run])) := by
  rw [likePattern, String.toList_ofList, List.cons_append, pieces?, pieces?_escaped]
  rfl

/-- Up to the folding, the term stands somewhere in the text. -/
theorem infix_map_iff {term : List Char} :
    term.map fold <:+: text.map fold ↔
      ∃ before here after, text = before ++ (here ++ after) ∧ here.map fold = term.map fold := by
  constructor
  · rintro ⟨first, last, parts⟩
    obtain ⟨front, after, rfl, fronts, -⟩ := List.map_eq_append_iff.1 parts.symm
    obtain ⟨before, here, rfl, -, same⟩ := List.map_eq_append_iff.1 fronts
    exact ⟨before, here, after, List.append_assoc .., same⟩
  · rintro ⟨before, here, after, rfl, same⟩
    refine ⟨before.map fold, after.map fold, ?_⟩
    rw [List.map_append, List.map_append, same, List.append_assoc]

/-- It matches the texts that hold the term, up to case. -/
theorem like_likePattern_iff (term : String) :
    Like fold (likePattern term).toList text ↔ term.toList.map fold <:+: text.map fold := by
  have matched : Like fold (likePattern term).toList text ↔
      Matches fold (.run :: (term.toList.map .literal ++ [.run])) text := by
    simp only [Like, pieces?_likePattern, Option.some.injEq, exists_eq_left']
  rw [matched, matches_run_iff, infix_map_iff]
  constructor
  · rintro ⟨before, rest, rfl, found⟩
    obtain ⟨here, after, rfl, same, -⟩ := matches_literals_iff.1 found
    exact ⟨before, here, after, rfl, same⟩
  · rintro ⟨before, here, after, rfl, same⟩
    exact ⟨before, here ++ after, rfl, matches_literals_iff.2 ⟨here, after, rfl, same, matches_last_run after⟩⟩

end Pattern

/-- Takes characters of different case for one another. The characters with a meaning in patterns stay apart from all
others. -/
structure CaseFolding where
  fold : Char → Char
  keeps : ∀ c, isPatternMark c → fold c = c
  reserves : ∀ c, isPatternMark (fold c) → isPatternMark c

namespace CaseFolding

theorem not_mark_toLower {c : Char} (capital : c.val ≥ 'A'.val ∧ c.val ≤ 'Z'.val) :
    isPatternMark c.toLower = false := by
  have lower : c.toLower.val.toNat = c.val.toNat + 32 := by
    have bound : c.val.toNat ≤ 90 := UInt32.le_iff_toNat_le.1 capital.2
    have moved : c.toLower = _ := dif_pos capital
    rw [moved]
    show (c.val + 32).toNat = c.val.toNat + 32
    rw [UInt32.toNat_add]
    exact Nat.mod_eq_of_lt (by omega : c.val.toNat + 32 < 2 ^ 32)
  have above : 65 ≤ c.val.toNat := UInt32.le_iff_toNat_le.1 capital.1
  have apart (mark : Char) (small : mark.val.toNat < 97) : c.toLower ≠ mark := by
    rintro rfl
    omega
  simp [isPatternMark, apart '%' (by decide), apart '_' (by decide), apart '\\' (by decide)]

/-- The letters of ASCII in either case. -/
instance : Inhabited CaseFolding where
  default :=
    { fold := Char.toLower
      keeps := by
        intro c marked
        simp only [isPatternMark, Bool.or_eq_true, decide_eq_true_eq] at marked
        obtain (rfl | rfl) | rfl := marked <;> rfl
      reserves := by
        intro c marked
        by_cases capital : c.val ≥ 'A'.val ∧ c.val ≤ 'Z'.val
        · rw [not_mark_toLower capital] at marked
          cases marked
        · have kept : c.toLower = c := dif_neg capital
          rwa [kept] at marked }

/-- Folding a pattern that was built gives the pattern of the folded term. -/
theorem map_likePattern (folding : CaseFolding) (term : String) :
    (likePattern term).toList.map folding.fold = (likePattern (.ofList (term.toList.map folding.fold))).toList := by
  have marks (c : Char) : isPatternMark (folding.fold c) = isPatternMark c := by
    rw [Bool.eq_iff_iff]
    exact ⟨folding.reserves c, fun marked => by rwa [folding.keeps c marked]⟩
  have percent : folding.fold '%' = '%' := folding.keeps '%' rfl
  have backslash : folding.fold '\\' = '\\' := folding.keeps '\\' rfl
  have escaped (c : Char) : (if isPatternMark c then ['\\', c] else [c]).map folding.fold =
      if isPatternMark (folding.fold c) then ['\\', folding.fold c] else [folding.fold c] := by
    rw [marks]
    split
    · rw [List.map_cons, backslash, List.map_singleton]
    · rw [List.map_singleton]
  simp only [likePattern, String.toList_ofList, List.map_cons, List.map_append, List.map_flatMap, List.map_nil, percent,
    escaped, List.flatMap_map]

end CaseFolding

/-- The pattern of a term is no unfinished one, and a text is like it exactly if the term stands in the text. The same
holds up to letter case, whether characters are compared up to a folding or pattern and text are folded beforehand. -/
theorem likePattern_matches_iff (folding : CaseFolding) (term text : String) :
    (∃ pieces, Pattern.pieces? (likePattern term).toList = some pieces) ∧
    (Pattern.Like id (likePattern term).toList text.toList ↔ term.toList <:+: text.toList) ∧
    (Pattern.Like folding.fold (likePattern term).toList text.toList ↔
      term.toList.map folding.fold <:+: text.toList.map folding.fold) ∧
    (Pattern.Like id ((likePattern term).toList.map folding.fold) (text.toList.map folding.fold) ↔
      term.toList.map folding.fold <:+: text.toList.map folding.fold) := by
  refine ⟨⟨_, Pattern.pieces?_likePattern term⟩, ?_, Pattern.like_likePattern_iff term, ?_⟩
  · have plain : Pattern.Like id (likePattern term).toList text.toList ↔ term.toList.map id <:+: text.toList.map id :=
      Pattern.like_likePattern_iff term
    rwa [List.map_id, List.map_id] at plain
  · rw [folding.map_likePattern, Pattern.like_likePattern_iff, List.map_id, List.map_id, String.toList_ofList]

/-- The percent sign of a term is no run. -/
example : Pattern.pieces? (likePattern "5%").toList = some [.run, .literal '5', .literal '%', .run] := by decide

end AssetRegistry.Query
