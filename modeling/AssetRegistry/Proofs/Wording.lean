import AssetRegistry.Proofs.Payloads
import AssetRegistry.Proofs.Transactions

namespace AssetRegistry.Store

/-- What stands between two gaps of a text. -/
abbrev Word := List Char

/-- Blanks, commas and parentheses stand between words. -/
def isGap (c : Char) : Bool := c = ' ' || c = ',' || c = '(' || c = ')'

/-- The words of a text: whatever is left between its gaps. -/
def words (cs : List Char) : List Word :=
  (Text.splitAll ' ' (cs.map fun c => if isGap c then ' ' else c)).filter (!·.isEmpty)

/-- Characters that stand together as one word. -/
def IsWord (w : Word) : Prop := w ≠ [] ∧ ∀ c ∈ w, isGap c = false

theorem isWord_iff (w : Word) : (w.isEmpty = false ∧ w.all (!isGap ·) = true) ↔ IsWord w := by simp [IsWord]

instance (w : Word) : Decidable (IsWord w) := decidable_of_decidable_of_iff (isWord_iff w)

@[simp] theorem words_nil : words [] = [] := rfl

/-- A gap cuts words. -/
theorem words_gap {g : Char} (gap : isGap g) (xs ys : List Char) : words (xs ++ g :: ys) = words xs ++ words ys := by
  unfold words
  rw [List.map_append, List.map_cons, if_pos gap, Text.splitAll_append, List.filter_append]

theorem words_after_gap {xs ys : List Char} (ends : xs.getLast?.any isGap) : words (xs ++ ys) = words xs ++ words ys := by
  rcases List.eq_nil_or_concat xs with rfl | ⟨start, g, rfl⟩
  · rfl
  · have gap : isGap g := by simpa using ends
    have alone := words_gap gap start []
    rw [words_nil, List.append_nil] at alone
    rw [List.concat_eq_append, alone, List.append_assoc, List.singleton_append, words_gap gap]

theorem words_before_gap {xs ys : List Char} (starts : ys.head?.any isGap) :
    words (xs ++ ys) = words xs ++ words ys := by
  cases ys with
  | nil => simp
  | cons g ys =>
    have gap : isGap g := by simpa using starts
    rw [words_gap gap, show g :: ys = [] ++ g :: ys from rfl, words_gap gap, words_nil, List.nil_append]

theorem words_after_text {s : String} (ends : s.toList.getLast?.any isGap) (t : String) :
    words (s ++ t).toList = words s.toList ++ words t.toList := by
  rw [String.toList_append, words_after_gap ends]

theorem words_before_text {t : String} (starts : t.toList.head?.any isGap) (s : String) :
    words (s ++ t).toList = words s.toList ++ words t.toList := by
  rw [String.toList_append, words_before_gap starts]

theorem words_of_isWord {w : Word} (word : IsWord w) : words w = [w] := by
  have same : w.map (fun c => if isGap c then ' ' else c) = w := by
    refine (List.map_congr_left fun c member => ?_).trans (List.map_id w)
    rw [word.2 c member]
    rfl
  have absent : ' ' ∉ w := fun member => by simpa [isGap] using word.2 ' ' member
  unfold words
  rw [same, Text.splitAll_of_not_mem absent]
  simp [word.1]

theorem words_commaList (items : List String) :
    words (commaList items).toList = items.flatMap fun item => words item.toList := by
  unfold commaList
  induction items with
  | nil => rfl
  | cons item rest ih =>
    cases rest with
    | nil => simp
    | cons next rest =>
      rw [String.intercalate_cons_cons, String.append_assoc, String.toList_append,
        words_before_gap (by rw [String.toList_append]; rfl), String.toList_append, words_after_gap (by decide), ih]
      rfl

theorem words_commaList_of_isWord {names : List String} (wordy : ∀ name ∈ names, IsWord name.toList) :
    words (commaList names).toList = names.map String.toList := by
  rw [words_commaList]
  induction names with
  | nil => rfl
  | cons name rest ih =>
    rw [List.flatMap_cons, List.map_cons, words_of_isWord (wordy name List.mem_cons_self),
      ih fun name member => wordy name (List.mem_cons_of_mem _ member), List.singleton_append]

/-- The place of the argument that a placeholder stands for, counted from zero. -/
def slot? : Word → Option Nat
  | '$' :: digits =>
    match Text.digits? digits with
    | some (n + 1) => some n
    | _ => none
  | _ => none

theorem toList_placeholder (number : Nat) : (Query.placeholder number).toList = '$' :: Nat.toDigits 10 number := by
  unfold Query.placeholder Text.ofNat
  simp

theorem slot?_placeholder (n : Nat) : slot? (Query.placeholder (n + 1)).toList = some n := by
  rw [toList_placeholder, slot?, Text.digits?_toDigits]

theorem isGap_of_isDigit {c : Char} (digit : c.isDigit) : isGap c = false := by
  refine Bool.eq_false_iff.2 fun gap => ?_
  simp only [isGap, Bool.or_eq_true, decide_eq_true_eq] at gap
  rcases gap with ((rfl | rfl) | rfl) | rfl <;> cases digit

theorem isWord_placeholder (number : Nat) : IsWord (Query.placeholder number).toList := by
  rw [toList_placeholder]
  refine ⟨by simp, fun c member => ?_⟩
  rcases List.mem_cons.1 member with rfl | member
  · rfl
  · exact isGap_of_isDigit (Nat.isDigit_of_mem_toDigits (by decide) (by decide) member)

/-- The words before the first occurrence of a mark, and those after it. -/
def wordsBefore (mark : String) (ws : List Word) : List Word := ws.takeWhile (· != mark.toList)

/-- The words behind a mark. -/
def wordsAfter (mark : String) (ws : List Word) : List Word := (ws.dropWhile (· != mark.toList)).drop 1

/-- What a text asks the store to do: to add a row to a table, to change rows, to tell columns of rows, or anything
else. -/
inductive Command where
  | insert (table : Word) (columns values : List Word)
  | update (table : Word) (changes key : List Word)
  | select (columns : List Word) (table : Word) (key : List Word)
  | other
  deriving DecidableEq

/-- What the words ask for, by the first of them. -/
def Command.ofWords : List Word → Command
  | first :: second :: third :: rest =>
    if first = "INSERT".toList then .insert third (wordsBefore "VALUES" rest) (wordsAfter "VALUES" rest)
    else if first = "UPDATE".toList then .update second (wordsBefore "WHERE" rest) (wordsAfter "WHERE" rest)
    else if first = "SELECT".toList then
      match wordsAfter "FROM" (second :: third :: rest) with
      | table :: key => .select (wordsBefore "FROM" (second :: third :: rest)) table (wordsAfter "WHERE" key)
      | [] => .other
    else .other
  | _ => .other

/-- The command in the text of a statement. -/
def Statement.command (q : Statement) : Command := .ofWords (words q.text.toList)

/-- The places of the arguments in some changes, each with the column it is for: the last one before an equality sign. -/
def changedPlaces : (column : Word) → List Word → List (Word × Nat)
  | column, w :: next :: rest =>
    if next = ['='] then changedPlaces w rest
    else (slot? w).toList.map (column, ·) ++ changedPlaces column (next :: rest)
  | column, [w] => (slot? w).toList.map (column, ·)
  | _, [] => []

/-- The columns that a command gives arguments to, each with the argument's place. -/
def Command.places : Command → List (Word × Nat)
  | .insert _ columns values => (columns.zip values).filterMap fun (column, value) => (slot? value).map (column, ·)
  | .update _ changes _ => changedPlaces [] changes
  | .select _ _ _ | .other => []

/-- The places of the arguments that a command gives to some columns. -/
def Command.placesOf (c : Command) (columns : List String) : List Nat :=
  (c.places.filter fun place => columns.any (·.toList = place.1)).map (·.2)

/-- The arguments that a statement gives to some columns. -/
def Statement.given (q : Statement) (columns : List String) : List Value :=
  (q.command.placesOf columns).filterMap (q.args[·]?)

theorem spelled_append {s t : String} {cs ds : List Char} (first : s.toList = cs) (second : t.toList = ds) :
    (s ++ t).toList = cs ++ ds := by rw [String.toList_append, first, second]

/-- The command of a statement is read from its text, character by character. -/
theorem Statement.command_of_spelled {q : Statement} {cs : List Char} (spelled : q.text.toList = cs) :
    q.command = .ofWords (words cs) := by
  unfold Statement.command
  rw [spelled]

/-- What stands before a mark that occurs nowhere else. -/
theorem wordsBefore_append {mark : String} {xs : List Word} (absent : mark.toList ∉ xs) (ys : List Word) :
    wordsBefore mark (xs ++ mark.toList :: ys) = xs := by
  unfold wordsBefore
  rw [Text.takeWhile_of_edge absent (by simp)]

theorem wordsAfter_append {mark : String} {xs : List Word} (absent : mark.toList ∉ xs) (ys : List Word) :
    wordsAfter mark (xs ++ mark.toList :: ys) = ys := by
  unfold wordsAfter
  rw [Text.dropWhile_of_edge absent (by simp), List.drop_one, List.tail_cons]

theorem words_cons {c : Char} (letter : isGap c = false) (cs : List Char) :
    ∃ w rest, words (c :: cs) = (c :: w) :: rest := by
  unfold words
  rw [List.map_cons, letter, if_neg (by simp), Text.splitAll]
  have other : ¬(c == ' ') := by
    rintro same
    rw [eq_of_beq same] at letter
    cases letter
  rw [if_neg other]
  split
  · exact ⟨[], [], rfl⟩
  · exact ⟨_, _, rfl⟩

/-- A text that begins neither as an insertion nor as an update changes nothing. -/
theorem Command.ofWords_of_first {c : Char} {w : Word} (ws : List Word) (insert : c ≠ 'I') (update : c ≠ 'U') :
    (∃ columns table key, ofWords ((c :: w) :: ws) = .select columns table key) ∨ ofWords ((c :: w) :: ws) = .other := by
  have notInsert : c :: w ≠ "INSERT".toList := fun same => insert (List.cons.inj same).1
  have notUpdate : c :: w ≠ "UPDATE".toList := fun same => update (List.cons.inj same).1
  rcases ws with _ | ⟨second, _ | ⟨third, rest⟩⟩
  · exact Or.inr rfl
  · exact Or.inr rfl
  · unfold ofWords
    dsimp only
    rw [if_neg notInsert, if_neg notUpdate]
    split
    · split
      · exact Or.inl ⟨_, _, _, rfl⟩
      · exact Or.inr rfl
    · exact Or.inr rfl

theorem Command.places_of_first {c : Char} {w : Word} (ws : List Word) (insert : c ≠ 'I') (update : c ≠ 'U') :
    (Command.ofWords ((c :: w) :: ws)).places = [] := by
  obtain ⟨columns, table, key, reads⟩ | reads := ofWords_of_first ws insert update <;> rw [reads] <;> rfl

/-- A statement that begins as those do that only read gives no column anything. -/
theorem Statement.given_of_reading {q : Statement} (reads : q.text.toList.head? = some 'S') (columns : List String) :
    q.given columns = [] := by
  obtain ⟨cs, same⟩ := List.head?_eq_some_iff.1 reads
  obtain ⟨w, rest, split⟩ := words_cons (c := 'S') rfl cs
  unfold given command Command.placesOf
  rw [same, split, Command.places_of_first rest (by decide) (by decide)]
  rfl

/-- The names of columns are words, and none of them has a meaning of its own in a text. -/
theorem isWord_column {t : AssetType} {column : Specs.Column} (member : column ∈ Specs.columns t) :
    IsWord column.name.toList ∧ column.name.toList.head?.all (!·.isUpper) := by
  revert column
  cases t <;> decide +kernel

theorem isWord_table (t : AssetType) : IsWord (Specs.table t).toList := by
  cases t <;> decide +kernel

/-- Names of columns, as they stand in the text of a statement on attributes. -/
structure Plain (names : List String) : Prop where
  word : ∀ name ∈ names, IsWord name.toList
  small : ∀ name ∈ names, name.toList.head?.all (!·.isUpper)

/-- The columns of attributes have plain names. -/
theorem plain_columns (t : AssetType) : Plain ((Specs.columns t).map (·.name)) := by
  refine ⟨fun name member => ?_, fun name member => ?_⟩
  all_goals
    obtain ⟨column, among, rfl⟩ := List.mem_map.1 member
    simp [isWord_column among]

theorem plain_changed (p : AttributesPatch) : Plain p.changedColumns := by
  refine ⟨fun name member => ?_, fun name member => ?_⟩
  all_goals
    obtain ⟨column, among, rfl⟩ := Specs.Changes.mem_columns member
    simp [isWord_column among]

theorem ne_of_capital {w : Word} {mark : String} (small : w.head?.all (!·.isUpper))
    (capital : mark.toList.head?.any Char.isUpper) : mark.toList ≠ w := by
  rintro same
  rw [same] at capital
  cases first : w.head? <;> simp_all

theorem Plain.absent {names : List String} (plain : Plain names) {mark : String}
    (capital : mark.toList.head?.any Char.isUpper) : mark.toList ∉ names.map String.toList := by
  intro member
  obtain ⟨name, among, same⟩ := List.mem_map.1 member
  exact ne_of_capital (plain.small name among) capital same.symm

theorem words_placeholders (count : Nat) :
    words (commaList (placeholders 0 count)).toList = (placeholders 0 count).map String.toList := by
  refine words_commaList_of_isWord fun name member => ?_
  obtain ⟨i, -, rfl⟩ := List.mem_map.1 member
  exact isWord_placeholder _

/-- The insertion names all columns of the type, with a placeholder for each in the same order. -/
theorem insertAttributes_command (a : Attributes) :
    (Statement.insertAttributes a).command =
      .insert (Specs.table a.type).toList (((Specs.columns a.type).map (·.name)).map String.toList)
        ((placeholders 0 (Specs.columns a.type).length).map String.toList ++ ["RETURNING".toList, "id".toList]) := by
  have plain := plain_columns a.type
  have text : words (Statement.insertAttributes a).text.toList =
      "INSERT".toList :: "INTO".toList :: (Specs.table a.type).toList ::
        (((Specs.columns a.type).map (·.name)).map String.toList ++ "VALUES".toList ::
          ((placeholders 0 (Specs.columns a.type).length).map String.toList ++ ["RETURNING".toList, "id".toList])) := by
    unfold Statement.text
    simp only [String.append_assoc, List.length_map]
    rw [words_after_text (by decide), words_before_text (by rw [String.toList_append]; rfl),
      words_after_text (by decide), words_before_text (by rw [String.toList_append]; rfl),
      words_after_text (by decide), words_before_text (by decide), words_placeholders,
      words_commaList_of_isWord plain.word, words_of_isWord (isWord_table a.type)]
    rfl
  unfold Statement.command
  rw [text, Command.ofWords, if_pos rfl, wordsBefore_append (plain.absent (by decide)),
    wordsAfter_append (plain.absent (by decide))]

/-- The words of the changes to some columns, of which each one gets the next argument. -/
def changeWords (names : List String) : List Word :=
  (names.zip (placeholders 0 names.length)).flatMap fun (name, slot) => [name.toList, ['='], slot.toList]

/-- Each change is three words: column, sign and placeholder. -/
theorem Plain.words_changes {names : List String} (plain : Plain names) :
    words (commaList ((names.zip (placeholders 0 names.length)).map fun (name, slot) => name ++ " = " ++ slot)).toList =
      changeWords names := by
  rw [words_commaList, List.flatMap_map]
  unfold changeWords
  refine congrArg List.flatten (List.map_congr_left fun pair member => ?_)
  obtain ⟨isName, isSlot⟩ := List.of_mem_zip member
  obtain ⟨i, -, numbered⟩ := List.mem_map.1 isSlot
  have slot : IsWord pair.2.toList := numbered ▸ isWord_placeholder _
  show words (pair.1 ++ " = " ++ pair.2).toList = [pair.1.toList, ['='], pair.2.toList]
  rw [String.append_assoc, words_before_text (by rw [String.toList_append]; rfl), words_after_text (by decide),
    words_of_isWord (plain.word _ isName), words_of_isWord slot]
  rfl

theorem Plain.absent_changes {names : List String} (plain : Plain names) {mark : String}
    (capital : mark.toList.head?.any Char.isUpper) : mark.toList ∉ changeWords names := by
  intro member
  obtain ⟨pair, among, isWord⟩ := List.mem_flatMap.1 member
  obtain ⟨isName, isSlot⟩ := List.of_mem_zip among
  obtain ⟨i, -, numbered⟩ := List.mem_map.1 isSlot
  simp only [List.mem_cons, List.not_mem_nil, or_false] at isWord
  rcases isWord with same | same | same
  · exact ne_of_capital (plain.small _ isName) capital same
  · exact ne_of_capital rfl capital same
  · exact ne_of_capital (by rw [← numbered, toList_placeholder]; rfl) capital same

/-- The update names the changed columns, and the row by the placeholder after theirs. -/
theorem updateAttributes_command (p : AttributesPatch) (id : Uuid) :
    (Statement.updateAttributes p id).command =
      .update (Specs.table p.type).toList (changeWords p.changedColumns)
        ["id".toList, ['='], (Query.placeholder (p.changedColumns.length + 1)).toList] := by
  have plain := plain_changed p
  have text : words (Statement.updateAttributes p id).text.toList =
      "UPDATE".toList :: (Specs.table p.type).toList :: "SET".toList ::
        (changeWords p.changedColumns ++ "WHERE".toList ::
          ["id".toList, ['='], (Query.placeholder (p.changedColumns.length + 1)).toList]) := by
    unfold Statement.text
    simp only [String.append_assoc]
    rw [words_after_text (by decide), words_before_text (by rw [String.toList_append]; rfl),
      words_after_text (by decide), words_before_text (by rw [String.toList_append]; rfl),
      words_after_text (by decide)]
    simp only [← String.append_assoc]
    rw [plain.words_changes, words_of_isWord (isWord_table p.type), words_of_isWord (isWord_placeholder _)]
    rfl
  unfold Statement.command
  rw [text, Command.ofWords, if_neg (by decide), if_pos rfl, wordsBefore_append (plain.absent_changes (by decide)),
    wordsAfter_append (plain.absent_changes (by decide))]

theorem Command.ofWords_select {columns : List Word} (absent : "FROM".toList ∉ columns) (table : Word) (key : List Word) :
    Command.ofWords ("SELECT".toList :: (columns ++ "FROM".toList :: table :: "WHERE".toList :: key)) =
      .select columns table key := by
  have rest := wordsAfter_append absent (table :: "WHERE".toList :: key)
  have front := wordsBefore_append absent (table :: "WHERE".toList :: key)
  obtain ⟨second, third, later, shape⟩ : ∃ second third later,
      columns ++ "FROM".toList :: table :: "WHERE".toList :: key = second :: third :: later := by
    rcases columns with _ | ⟨second, _ | ⟨third, later⟩⟩ <;> exact ⟨_, _, _, rfl⟩
  rw [shape] at rest front ⊢
  rw [Command.ofWords, if_neg (by decide), if_neg (by decide), if_pos rfl, rest, front]
  dsimp only
  rw [show wordsAfter "WHERE" ("WHERE".toList :: key) = key from wordsAfter_append (List.not_mem_nil) key]

theorem findAttributes_command (t : AssetType) (id : Uuid) :
    (Statement.findAttributes t id).command =
      .select (((Specs.columns t).map (·.name)).map String.toList) (Specs.table t).toList
        ["id".toList, ['='], "$1".toList] := by
  have plain := plain_columns t
  have text : words (Statement.findAttributes t id).text.toList =
      "SELECT".toList :: (((Specs.columns t).map (·.name)).map String.toList ++ "FROM".toList ::
        (Specs.table t).toList :: "WHERE".toList :: ["id".toList, ['='], "$1".toList]) := by
    unfold Statement.text
    simp only [String.append_assoc]
    rw [words_after_text (by decide), words_before_text (by rw [String.toList_append]; rfl),
      words_after_text (by decide), words_before_text (by decide), words_commaList_of_isWord plain.word,
      words_of_isWord (isWord_table t)]
    rfl
  unfold Statement.command
  rw [text, Command.ofWords_select (plain.absent (by decide))]

end AssetRegistry.Store
