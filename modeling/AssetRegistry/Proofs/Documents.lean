import AssetRegistry.Json.Printer
import AssetRegistry.Json.Record
import AssetRegistry.Proofs.Encodings
import AssetRegistry.Proofs.Ensures
import AssetRegistry.Proofs.Skipping
import Mathlib.Tactic.IntervalCases

namespace AssetRegistry.Json
open Outcome

theorem length_le_utf8Length (cs : List Char) : cs.length ≤ Text.utf8Length cs := by
  induction cs with
  | nil => exact Nat.le_refl _
  | cons c cs ih =>
    have filled := c.utf8Size_pos
    rw [Text.utf8Length, List.length_cons]
    omega

theorem readHex_hexDigits {n : Nat} (small : n < 0x10000) (cs : List Char) :
    readHex (Text.hexDigits 4 n ++ cs) = .ok n cs := by
  have four : (Text.hexDigits 4 n).length = 4 := Text.length_hexDigits 4 n
  have long := length_le_utf8Length (Text.hexDigits 4 n)
  have reads : Text.ofHexDigits? (Text.hexDigits 4 n) = some n := by
    have fits : n < Nat.pow 16 4 := small
    rw [Text.ofHexDigits?_hexDigits, Nat.mod_eq_of_lt fits]
  unfold readHex
  rw [List.take_left' four, List.drop_left' four, if_neg (by omega), reads]
  exact if_pos four

theorem readCodePoint_hexDigits {n : Nat} (small : n < 0xD800) (cs : List Char) :
    readCodePoint (Text.hexDigits 4 n ++ cs) = .ok n cs := by
  unfold readCodePoint
  rw [readHex_hexDigits (by omega)]
  show (if _ then _ else if _ then _ else _) = _
  rw [if_neg (by simp; omega), if_pos (by simp; omega)]

/-- One step of the reader takes one character, however it is written. -/
theorem readStringWithin_escapeChar (c : Char) (fuel : Nat) (before cs : List Char) :
    readStringWithin (fuel + 1) before (escapeChar c ++ cs) = readStringWithin fuel (c :: before) cs := by
  have same {n : Nat} (code : c.toNat = n) : Char.ofNat n = c := by rw [← code, Char.ofNat_toNat]
  unfold escapeChar
  split
  next quote => rw [quote]; rfl
  split
  next backslash => rw [backslash]; rfl
  split
  next newline => rw [newline]; rfl
  split
  next carriageReturn => rw [carriageReturn]; rfl
  split
  next tab => rw [tab]; rfl
  split
  next backspace => rw [← same backspace]; rfl
  split
  next formFeed => rw [← same formFeed]; rfl
  split
  next control =>
    rw [List.append_assoc]
    show readStringWithin (fuel + 1) before ('\\' :: 'u' :: (Text.hexDigits 4 c.toNat ++ cs)) = _
    rw [readStringWithin, readCodePoint_hexDigits (by omega)]
    show readStringWithin fuel (Char.ofNat c.toNat :: before) cs = _
    rw [Char.ofNat_toNat]
  next printable =>
    rw [List.singleton_append, readStringWithin, if_neg printable]
    all_goals simp_all

/-- An escaped text is read up to its closing quote, by induction on the characters. -/
theorem readStringWithin_flatMap {fuel : Nat} (s before rest : List Char) (enough : s.length < fuel) :
    readStringWithin fuel before (s.flatMap escapeChar ++ '"' :: rest) = .ok (.ofList (before.reverse ++ s)) rest := by
  obtain ⟨fuel, rfl⟩ : ∃ less, fuel = less + 1 := ⟨fuel - 1, by omega⟩
  induction s generalizing fuel before with
  | nil =>
    rw [List.append_nil, List.flatMap_nil, List.nil_append, readStringWithin]
    exact Nat.succ_ne_zero _
  | cons c s ih =>
    rw [List.length_cons] at enough
    obtain ⟨fuel, rfl⟩ : ∃ less, fuel = less + 1 := ⟨fuel - 1, by omega⟩
    rw [List.flatMap_cons, List.append_assoc, readStringWithin_escapeChar, ih _ _ (by omega), List.reverse_cons,
      List.append_assoc, List.singleton_append]

theorem length_le_flatMap_escapeChar (s : List Char) : s.length ≤ (s.flatMap escapeChar).length := by
  have filled (c : Char) : 1 ≤ (escapeChar c).length := by
    unfold escapeChar
    repeat' split
    all_goals simp
  induction s with
  | nil => exact Nat.le_refl _
  | cons c s ih =>
    have one := filled c
    rw [List.flatMap_cons, List.length_append, List.length_cons]
    omega

/-- A string that was printed is read as what it was. -/
theorem readString_flatMap (s : String) (rest : List Char) :
    readString (s.toList.flatMap escapeChar ++ '"' :: rest) = .ok s rest := by
  have long := length_le_flatMap_escapeChar s.toList
  unfold readString
  rw [readStringWithin_flatMap s.toList [] rest (by rw [List.length_append]; omega), List.reverse_nil, List.nil_append,
    String.ofList_toList]

theorem stringText_append (s : String) (rest : List Char) :
    stringText s ++ rest = '"' :: (s.toList.flatMap escapeChar ++ '"' :: rest) := by
  simp [stringText]

/-- What stands behind a value in the text of an object. -/
inductive Closes : List Char → Prop
  | comma (rest : List Char) : Closes (',' :: rest)
  | brace (rest : List Char) : Closes (Char.ofNat 0x7D :: rest)

theorem isDigit_of_mem_toDigits {n : Nat} {c : Char} (member : c ∈ Nat.toDigits 10 n) : isDigit c = true := by
  have digit := Nat.isDigit_of_mem_toDigits (by decide) (by decide) member
  rw [Char.isDigit, Bool.and_eq_true, decide_eq_true_eq, decide_eq_true_eq] at digit
  unfold isDigit
  rw [Bool.and_eq_true, decide_eq_true_eq, decide_eq_true_eq]
  exact digit

/-- Digits are followed by a digit nowhere in the text of an object. -/
theorem span_toDigits {rest : List Char} (closes : Closes rest) (n : Nat) :
    (Nat.toDigits 10 n ++ rest).takeWhile isDigit = Nat.toDigits 10 n ∧
      (Nat.toDigits 10 n ++ rest).dropWhile isDigit = rest := by
  have all : ∀ c ∈ Nat.toDigits 10 n, isDigit c = true := fun c => isDigit_of_mem_toDigits
  rw [List.takeWhile_append_of_pos all, List.dropWhile_append_of_pos all]
  cases closes <;> exact ⟨List.append_nil _, rfl⟩

/-- Numbers above zero do not begin with a zero. -/
theorem toDigits_eq_cons {n : Nat} (positive : 0 < n) : ∃ c cs, Nat.toDigits 10 n = c :: cs ∧ c ≠ '0' := by
  induction n using Nat.strongRecOn with
  | _ n ih =>
    by_cases small : n < 10
    · have filled : ∀ d < 10, 0 < d → Nat.digitChar d ≠ '0' := by decide
      exact ⟨n.digitChar, [], Nat.toDigits_of_lt_base small, filled n small positive⟩
    · obtain ⟨c, cs, first, other⟩ := ih (n / 10) (by omega) (by omega)
      refine ⟨c, cs ++ [(n % 10).digitChar], ?_, other⟩
      rw [Nat.toDigits_of_base_le (by decide) (by omega), first, List.cons_append]

theorem packDigits_eq {cs : List Char} {n : Nat} (fits : Nat.ofDigitChars 10 cs n < UInt64.size) :
    packDigits n cs = (Nat.ofDigitChars 10 cs n, []) := by
  induction cs generalizing n with
  | nil => rfl
  | cons c cs ih =>
    have step : Nat.ofDigitChars 10 (c :: cs) n = Nat.ofDigitChars 10 cs (n * 10 + (c.toNat - 48)) := by
      rw [Nat.ofDigitChars_cons, Nat.mul_comm]
      rfl
    have grows : n * 10 + (c.toNat - 48) ≤ Nat.ofDigitChars 10 cs (n * 10 + (c.toNat - 48)) := by
      rw [Nat.ofDigitChars_eq_ofDigitChars_zero]
      exact Nat.le_add_right_of_le (Nat.le_mul_of_pos_left _ (Nat.pow_pos (by decide)))
    rw [step] at fits ⊢
    rw [packDigits]
    rw [if_pos (by omega), ih fits]

/-- A whole number that fits is read as it was printed. -/
theorem readNumber_toDigits {n : Nat} {rest : List Char} (fits : n < UInt64.size) (closes : Closes rest)
    (negative : Bool) : readNumber negative (Nat.toDigits 10 n ++ rest) = .ok (makeWhole negative n) rest := by
  have last (n : Nat) : readNumberTail negative n 0 rest = .ok (makeWhole negative n) rest := by cases closes <;> rfl
  obtain rfl | positive := Nat.eq_zero_or_pos n
  · rw [← last 0]
    cases closes <;> rfl
  · obtain ⟨c, cs, first, other⟩ := toDigits_eq_cons positive
    obtain ⟨digits, behind⟩ := span_toDigits closes n
    have digit : isDigit c = true := isDigit_of_mem_toDigits (first ▸ List.mem_cons_self)
    have packed : packDigits 0 (Nat.toDigits 10 n) = (n, []) := by
      rw [packDigits_eq, Nat.ofDigitChars_ten_toDigits]
      rwa [Nat.ofDigitChars_ten_toDigits]
    rw [first, List.cons_append] at digits behind ⊢
    rw [readNumber, if_pos digit, digits, behind, ← first, packed]
    · exact last n
    · exact other

theorem skipNumber_toDigits {rest : List Char} (closes : Closes rest) (n : Nat) :
    skipNumber (Nat.toDigits 10 n ++ rest) = .ok () rest := by
  obtain rfl | positive := Nat.eq_zero_or_pos n
  · cases closes <;> rfl
  · obtain ⟨c, cs, first, other⟩ := toDigits_eq_cons positive
    obtain ⟨-, behind⟩ := span_toDigits closes n
    have digit : isDigit c = true := isDigit_of_mem_toDigits (first ▸ List.mem_cons_self)
    rw [first, List.cons_append] at behind ⊢
    rw [List.dropWhile_cons_of_pos digit] at behind
    rw [skipNumber]
    dsimp only
    rw [if_pos digit, behind]
    · cases closes <;> rfl
    · exact other

/-- Strings, and whole numbers that 64 bits hold. -/
inductive Plain : Json → Prop
  | text (s : String) : Plain (.text s)
  | whole {n : Int} (low : Int64.minValue.toInt ≤ n) (high : n < UInt64.size) : Plain (.whole n)

/-- A whole number is written in digits, a negative one with a minus sign before them. -/
theorem print_whole {n : Int} (low : Int64.minValue.toInt ≤ n) (high : n < UInt64.size) : ∃ m < UInt64.size,
    ((Json.whole n).print = Nat.toDigits 10 m ∧ makeWhole false m = .whole n) ∨
      ((Json.whole n).print = '-' :: Nat.toDigits 10 m ∧ makeWhole true m = .whole n) := by
  cases n with
  | ofNat m =>
    refine ⟨m, by simpa using high, Or.inl ⟨?_, rfl⟩⟩
    rw [print]
    exact String.toList_ofList
  | negSucc m =>
    have least : Int64.minValue.toInt = -9223372036854775808 := rfl
    have size : UInt64.size = 18446744073709551616 := rfl
    refine ⟨m + 1, by omega, Or.inr ⟨?_, ?_⟩⟩
    · rw [print, Text.ofInt, String.toList_append]
      exact congrArg _ String.toList_ofList
    · unfold makeWhole
      rw [if_neg (by decide), if_neg (by simp; omega)]
      rfl

theorem digitChar_of_isDigit {c : Char} (digit : isDigit c = true) : ∃ d < 10, c = Nat.digitChar d := by
  have bounds : 48 ≤ c.toNat ∧ c.toNat ≤ 57 := by simpa [isDigit, Char.le_def, UInt32.le_iff_toNat_le] using digit
  have all : ∀ d < 10, Char.ofNat (48 + d) = Nat.digitChar d := by decide
  refine ⟨c.toNat - 48, by omega, ?_⟩
  rw [← all _ (by omega), Nat.add_sub_cancel' bounds.1, Char.ofNat_toNat]

section
variable {c : Char} {cs : List Char}

theorem readNumeric_digit {α : Type} {wanted : String} {ofJson : Json → Except Mismatch α} (digit : isDigit c = true) :
    Decoder.readNumeric wanted ofJson (c :: cs) = (readNumber false (c :: cs)).andThen ofJson := by
  obtain ⟨d, small, rfl⟩ := digitChar_of_isDigit digit
  interval_cases d <;> rfl

theorem readAny_digit {build : List (String × Json) → Json} {depth : Nat} (digit : isDigit c = true) :
    readAny build (depth + 1) (c :: cs) = readNumber false (c :: cs) := by
  obtain ⟨d, small, rfl⟩ := digitChar_of_isDigit digit
  interval_cases d <;> rfl

theorem skipWithin_digit {fuel : Nat} {frames : List Frame} (digit : isDigit c = true) :
    skipWithin (fuel + 1) .value frames (c :: cs) =
      (skipNumber (c :: cs)).bind fun _ rest => skipWithin fuel .after frames rest := by
  obtain ⟨d, small, rfl⟩ := digitChar_of_isDigit digit
  interval_cases d <;> rfl

end

/-- How the text of a plain value begins, and what is behind it. -/
inductive PlainText : Json → List Char → List Char → Prop
  | quote {s : String} {inner rest : List Char} : readString inner = .ok s rest →
      PlainText (.text s) ('"' :: inner) rest
  | digit {n : Int} {c : Char} {cs rest : List Char} : isDigit c = true →
      readNumber false (c :: cs) = .ok (.whole n) rest → skipNumber (c :: cs) = .ok () rest →
      PlainText (.whole n) (c :: cs) rest
  | minus {n : Int} {cs rest : List Char} : readNumber true cs = .ok (.whole n) rest → skipNumber cs = .ok () rest →
      PlainText (.whole n) ('-' :: cs) rest

/-- Plain values are printed as texts that read back, in front of anything that closes a value. -/
theorem plainText_print {j : Json} {rest : List Char} (plain : Plain j) (closes : Closes rest) :
    PlainText j (j.print ++ rest) rest := by
  cases plain with
  | text s =>
    rw [print, stringText_append]
    exact .quote (readString_flatMap s rest)
  | whole low high =>
    obtain ⟨m, fits, ⟨printed, same⟩ | ⟨printed, same⟩⟩ := print_whole low high
    · have reads := readNumber_toDigits fits closes false
      have skips := skipNumber_toDigits closes m
      obtain ⟨c, cs, first⟩ := List.exists_cons_of_ne_nil (Nat.toDigits_ne_nil (n := m) (b := 10))
      have digit : isDigit c = true := isDigit_of_mem_toDigits (first ▸ List.mem_cons_self)
      rw [first, List.cons_append] at reads skips
      rw [printed, first, List.cons_append]
      exact .digit digit (same ▸ reads) skips
    · rw [printed, List.cons_append]
      exact .minus (same ▸ readNumber_toDigits fits closes true) (skipNumber_toDigits closes m)

namespace PlainText
variable {j : Json} {cs rest : List Char}

/-- Whatever objects are made of, a plain text is read as its value. -/
theorem readAny (text : PlainText j cs rest) (build : List (String × Json) → Json) (depth : Nat) :
    readAny build (depth + 1) cs = .ok j rest := by
  cases text with
  | quote reads => exact map_eq_ok.2 ⟨_, reads, rfl⟩
  | digit digit reads => rw [readAny_digit digit, reads]
  | minus reads => exact reads

/-- The text of a plain value is passed over as a whole. -/
theorem skipValue (text : PlainText j cs rest) : skipValue cs = .ok () rest := by
  cases text with
  | quote reads => exact skipValue_string rfl (skipString_of_readString reads)
  | digit digit _ skips =>
    unfold Json.skipValue
    rw [skipWithin_digit digit]
    exact bind_eq_ok.2 ⟨(), rest, skips, skipWithin_done _ _⟩
  | minus _ skips => exact bind_eq_ok.2 ⟨(), rest, skips, skipWithin_done _ _⟩

/-- The text of a plain value begins with no blank, and not like a null, an array or an object. -/
theorem begins (text : PlainText j cs rest) :
    ∃ c tail, cs = c :: tail ∧ isSpace c = false ∧ c ∉ ['n', '[', Char.ofNat 0x7B] := by
  cases text with
  | quote => exact ⟨'"', _, rfl, rfl, by decide⟩
  | digit digit =>
    have filled : ∀ d < 10, isSpace (Nat.digitChar d) = false ∧ Nat.digitChar d ∉ ['n', '[', Char.ofNat 0x7B] := by
      decide
    obtain ⟨d, small, rfl⟩ := digitChar_of_isDigit digit
    exact ⟨_, _, rfl, filled d small⟩
  | minus => exact ⟨'-', _, rfl, rfl, by decide⟩

end PlainText

namespace Decoder
variable {α : Type}

/-- The decoder reads a plain text as it reads its value. -/
def Faithful (d : Decoder α) : Prop :=
  ∀ {depth j cs a rest}, PlainText j cs rest → d.ofJson j = .ok a → d.read depth cs = .ok a rest

/-- A reader of parsed strings reads texts as it reads values. -/
theorem faithful_written (wanted : String) (parse : String → Except Mismatch α) : (written wanted parse).Faithful := by
  intro depth j cs a rest text reads
  cases text with
  | quote string => exact andThen_eq_ok.2 ⟨_, string, reads⟩
  | digit | minus => cases reads

theorem faithful_label [Vocabulary α] : (label (α := α)).Faithful := by
  intro depth j cs a rest text reads
  cases text with
  | quote string => exact andThen_eq_ok.2 ⟨_, string, reads⟩
  | digit | minus => cases reads

theorem faithful_wholeWithin (wanted : String) (low high : Int) (ofInt : Int → α) :
    (wholeWithin wanted low high ofInt).Faithful := by
  intro depth j cs a rest text reads
  cases text with
  | quote => cases reads
  | @digit n c cs _ digit number =>
    show readNumeric wanted _ (c :: cs) = _
    rw [readNumeric_digit digit]
    exact andThen_eq_ok.2 ⟨_, number, reads⟩
  | minus number => exact andThen_eq_ok.2 ⟨_, number, reads⟩

theorem Faithful.option {d : Decoder α} (faithful : d.Faithful) : d.option.Faithful := by
  intro depth j cs a rest text given
  have same : d.option.ofJson j = (d.ofJson j).map some := by cases text <;> rfl
  obtain ⟨v, reads, rfl⟩ := ok_of_map (same.symm.trans given)
  have value : d.read depth cs = .ok v rest := faithful text reads
  obtain ⟨c, tail, rfl, filled, others⟩ := text.begins
  unfold Decoder.option
  dsimp only
  rw [skipSpace_cons filled]
  split
  next starts =>
    obtain ⟨rfl, -⟩ := List.cons.inj starts
    exact absurd List.mem_cons_self others
  · exact map_eq_ok.2 ⟨v, value, rfl⟩

end Decoder

theorem readUnder_colon {α : Type} (key : String) (value : List Char → Outcome α) (cs : List Char) :
    readUnder key value (':' :: cs) = (value cs).within (.key key) := rfl

/-- A field is filled alike from a text and from the value. -/
theorem fillFrom_of_fill {fields : List Field} {key : String} {slots slots' : Slots fields} {j : Json}
    {cs rest : List Char} (text : PlainText j cs rest) (faithful : ∀ f ∈ fields, f.name = key → f.decoder.Faithful)
    (fills : Slots.fill fields slots key j = .ok slots') (depth : Nat) :
    Slots.fillFrom depth fields key slots (':' :: cs) = .ok slots' rest := by
  induction fields with
  | nil =>
    obtain rfl := Except.ok.inj fills
    rw [Slots.fillFrom, readUnder_colon, text.skipValue]
    rfl
  | cons f fs ih =>
    obtain ⟨slot, slots⟩ := slots
    rw [Slots.fill] at fills
    rw [Slots.fillFrom]
    split at fills
    next named =>
      rw [if_pos named]
      split at fills
      · cases fills
      next empty =>
        obtain ⟨v, reads, rfl⟩ := ok_of_map fills
        rw [if_neg empty, readUnder_colon, faithful f List.mem_cons_self named.symm text reads]
        rfl
    next other =>
      rw [if_neg other]
      obtain ⟨later, reads, rfl⟩ := ok_of_map fills
      rw [ih (fun g member => faithful g (List.mem_cons_of_mem _ member)) reads]
      rfl

/-- The entries that follow another one. -/
def printRest : List (String × Json) → List Char
  | [] => []
  | entry :: entries => ',' :: printEntries (entry :: entries)

theorem printEntries_cons (key : String) (value : Json) (entries : List (String × Json)) :
    printEntries ((key, value) :: entries) = stringText key ++ ':' :: (value.print ++ printRest entries) := by
  cases entries <;> simp [printEntries, printRest]

theorem closes_printRest (entries : List (String × Json)) (rest : List Char) :
    Closes (printRest entries ++ Char.ofNat 0x7D :: rest) := by
  cases entries with
  | nil => exact .brace rest
  | cons => exact .comma _

theorem length_le_printRest (entries : List (String × Json)) : entries.length ≤ (printRest entries).length := by
  induction entries with
  | nil => exact Nat.le_refl _
  | cons entry entries ih =>
    rw [printRest, printEntries_cons]
    simp only [List.length_cons, List.length_append]
    omega

theorem nextKey_printRest (key : String) (value : Json) (entries : List (String × Json)) (rest : List Char) :
    nextKey false (printRest ((key, value) :: entries) ++ rest) =
      .ok (some key) (':' :: (value.print ++ (printRest entries ++ rest))) := by
  rw [printRest, printEntries_cons, List.cons_append, List.append_assoc, stringText_append]
  show (readString _).map some = _
  rw [readString_flatMap, List.cons_append, List.append_assoc]
  rfl

/-- The first entry is read as if it followed another one. -/
theorem readEntries_printEntries {σ : Type} (entry : String → σ → List Char → Outcome σ) (fuel : Nat) (state : σ)
    (entries : List (String × Json)) (rest : List Char) :
    readEntries entry (fuel + 1) true state (printEntries entries ++ Char.ofNat 0x7D :: rest) =
      readEntries entry (fuel + 1) false state (printRest entries ++ Char.ofNat 0x7D :: rest) := by
  cases entries with
  | nil => rfl
  | cons first entries =>
    rw [printRest, List.cons_append, printEntries_cons, List.append_assoc, stringText_append, readEntries, readEntries]
    rfl

/-- The entries of a printed object are read one by one, by induction on them. -/
theorem readEntries_printRest {fields : List Field} {entries : List (String × Json)} {slots slots' : Slots fields}
    (plain : ∀ entry ∈ entries, Plain entry.2)
    (faithful : ∀ f ∈ fields, f.name ∈ entries.map Prod.fst → f.decoder.Faithful)
    (fills : entries.foldlM (fun slots entry => Slots.fill fields slots entry.1 entry.2) slots = .ok slots')
    {fuel : Nat} (enough : entries.length < fuel) (depth : Nat) (rest : List Char) :
    readEntries (Slots.fillFrom depth fields) fuel false slots (printRest entries ++ Char.ofNat 0x7D :: rest) =
      .ok slots' (Char.ofNat 0x7D :: rest) := by
  obtain ⟨fuel, rfl⟩ : ∃ less, fuel = less + 1 := ⟨fuel - 1, by omega⟩
  induction entries generalizing slots fuel with
  | nil =>
    obtain rfl := Except.ok.inj fills
    rfl
  | cons entry entries ih =>
    obtain ⟨key, value⟩ := entry
    rw [List.foldlM_cons] at fills
    obtain ⟨slots₁, first, fills⟩ := ok_of_bind fills
    rw [List.length_cons] at enough
    obtain ⟨fuel, rfl⟩ : ∃ less, fuel = less + 1 := ⟨fuel - 1, by omega⟩
    have text := plainText_print (plain _ List.mem_cons_self) (closes_printRest entries rest)
    have taken (f : Field) (member : f ∈ fields) (named : f.name = key) : f.decoder.Faithful :=
      faithful f member (named ▸ List.mem_cons_self)
    have filled := fillFrom_of_fill text taken first depth
    rw [readEntries, nextKey_printRest]
    show (Slots.fillFrom depth fields key slots _).bind _ = _
    rw [filled]
    exact ih (fun entry member => plain entry (List.mem_cons_of_mem _ member))
      (fun f member named => faithful f member (List.mem_cons_of_mem _ named)) fills fuel (by omega)

/-- Entries that give every field its value, in the order of the fields. -/
inductive Spells : (fields : List Field) → List (String × Json) → Tuple fields → Prop
  | nil : Spells [] [] ()
  | cons {f : Field} {fs : List Field} {j : Json} {v : f.Value} {entries : List (String × Json)} {vs : Tuple fs} :
      f.decoder.ofJson j = .ok v → f.name ∉ fs.map Field.name → Spells fs entries vs →
      Spells (f :: fs) ((f.name, j) :: entries) (v, vs)

namespace Spells
variable {fields : List Field} {entries : List (String × Json)} {vs : Tuple fields}

theorem required {α : Type} {name : String} {d : Decoder α} {j : Json} {a : α} (reads : d.ofJson j = .ok a)
    (fresh : name ∉ fields.map Field.name) (spells : Spells fields entries vs) :
    Spells (.required name d :: fields) ((name, j) :: entries) (a, vs) := .cons reads fresh spells

theorem names (spells : Spells fields entries vs) : entries.map Prod.fst = fields.map Field.name := by
  induction spells with
  | nil => rfl
  | cons _ _ _ ih => rw [List.map_cons, List.map_cons, ih]

/-- Entries of other keys go past a field. -/
theorem foldlM_fill_cons {f : Field} {slot : Option f.Value} {slots slots' : Slots fields}
    (others : f.name ∉ entries.map Prod.fst)
    (fills : entries.foldlM (fun slots entry => Slots.fill fields slots entry.1 entry.2) slots = .ok slots') :
    entries.foldlM (fun slots entry => Slots.fill (f :: fields) slots entry.1 entry.2) (slot, slots) =
      .ok (slot, slots') := by
  induction entries generalizing slots with
  | nil =>
    obtain rfl := Except.ok.inj fills
    rfl
  | cons entry entries ih =>
    rw [List.map_cons, List.mem_cons, not_or] at others
    rw [List.foldlM_cons] at fills
    obtain ⟨slots₁, first, fills⟩ := ok_of_bind fills
    have passed : Slots.fill (f :: fields) (slot, slots) entry.1 entry.2 = .ok (slot, slots₁) := by
      rw [Slots.fill, if_neg (Ne.symm others.1), first]
      rfl
    show (Slots.fill (f :: fields) (slot, slots) entry.1 entry.2 >>= _) = _
    rw [passed]
    exact ih others.2 fills

theorem foldlM_fill (spells : Spells fields entries vs) : ∃ slots,
    entries.foldlM (fun slots entry => Slots.fill fields slots entry.1 entry.2) (Slots.empty fields) = .ok slots ∧
      Slots.finish fields slots = .ok vs := by
  induction spells with
  | nil => exact ⟨(), rfl, rfl⟩
  | @cons f fs j v entries vs reads fresh spells ih =>
    obtain ⟨slots, fills, finishes⟩ := ih
    have first : Slots.fill (f :: fs) (Slots.empty (f :: fs)) f.name j = .ok (some v, Slots.empty fs) := by
      rw [Slots.empty, Slots.fill, if_pos rfl, if_neg (by simp), reads]
      rfl
    refine ⟨(some v, slots), ?_, ?_⟩
    · rw [List.foldlM_cons, first]
      exact foldlM_fill_cons (spells.names ▸ fresh) fills
    · rw [Slots.finish, finishes]
      rfl

end Spells

namespace Record
variable {r : Record} {α : Type} {make : Tuple r.fields → α} {entries : List (String × Json)} {a : α}

theorem ofJson_of_spells {vs : Tuple r.fields} (spells : Spells r.fields entries vs) :
    (r.decoder make).ofJson (.object entries) = .ok (make vs) := by
  obtain ⟨slots, fills, finishes⟩ := spells.foldlM_fill
  have reads : r.ofEntries entries = .ok vs := by
    unfold ofEntries
    rw [fills]
    exact finishes
  show (r.ofEntries entries).map make = _
  rw [reads]
  rfl

/-- What is read from the entries of an object is read from its text. -/
theorem readObject_print {vs : Tuple r.fields} (plain : ∀ entry ∈ entries, Plain entry.2)
    (faithful : ∀ f ∈ r.fields, f.name ∈ entries.map Prod.fst → f.decoder.Faithful)
    (reads : r.ofEntries entries = .ok vs) (depth : Nat) (rest : List Char) :
    r.readObject depth (printEntries entries ++ Char.ofNat 0x7D :: rest) = .ok vs rest := by
  obtain ⟨slots, fills, finishes⟩ := ok_of_bind reads
  have long : entries.length < (printEntries entries ++ Char.ofNat 0x7D :: rest).length + 1 := by
    have rests := length_le_printRest entries
    have shorter : (printRest entries).length ≤ (printEntries entries).length + 1 := by
      cases entries <;> simp [printRest]
    rw [List.length_append, List.length_cons]
    omega
  have taken := readEntries_printRest plain faithful fills long depth rest
  rw [← readEntries_printEntries] at taken
  refine bind_eq_ok.2 ⟨slots, _, taken, bind_eq_ok.2 ⟨(), rest, rfl, ?_⟩⟩
  rw [finishes]

/-- A record is read from the text of an object as it is read from the object. -/
theorem readDocument_print (plain : ∀ entry ∈ entries, Plain entry.2)
    (faithful : ∀ f ∈ r.fields, f.name ∈ entries.map Prod.fst → f.decoder.Faithful)
    (reads : (r.decoder make).ofJson (.object entries) = .ok a) :
    (r.decoder make).readDocument (Json.object entries).print = .ok a := by
  obtain ⟨vs, fields, rfl⟩ := ok_of_map reads
  have object : (r.decoder make).read depthLimit (Json.object entries).print = .ok (make vs) [] := by
    rw [print]
    refine map_eq_ok.2 ⟨vs, ?_, rfl⟩
    show r.readObject (depthLimit - 1) (printEntries entries ++ [Char.ofNat 0x7D]) = _
    exact readObject_print plain faithful fields _ []
  have all : (r.decoder make).readAll (Json.object entries).print = .ok (make vs) [] :=
    bind_eq_ok.2 ⟨make vs, [], object, rfl⟩
  unfold Decoder.readDocument
  rw [all]

end Record

end AssetRegistry.Json
