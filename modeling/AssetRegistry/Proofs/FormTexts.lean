import AssetRegistry.Proofs.Encodings
import AssetRegistry.Text.Percent
import Mathlib.Data.List.Forall2

namespace AssetRegistry.Text

/-- The characters that mean something else than themselves in a query. -/
def formMarks : List Char := ['%', '&', '+', '=']

/-- An escape of a byte; the letters among its digits may be of either case. -/
def Escapes (b : UInt8) (written : List Char) : Prop :=
  ∃ high low, written = ['%', high, low] ∧ hexValue? high = some (b.toNat / 16) ∧ hexValue? low = some (b.toNat % 16)

/-- The ways to write a character: itself, a plus sign for a space, or the escapes of its bytes. -/
inductive WrittenChar (c : Char) : List Char → Prop
  | itself : c ∉ formMarks → WrittenChar c [c]
  | plus : c = ' ' → WrittenChar c ['+']
  | escaped {escapes : List (List Char)} :
      List.Forall₂ Escapes (String.utf8EncodeChar c) escapes → WrittenChar c escapes.flatten

/-- A text written character by character. -/
inductive Written : (text written : List Char) → Prop
  | nil : Written [] []
  | cons {c : Char} {text first rest : List Char} :
      WrittenChar c first → Written text rest → Written (c :: text) (first ++ rest)

theorem written_of_plain {text : List Char} (plain : ∀ c ∈ text, c ∉ formMarks) : Written text text := by
  induction text with
  | nil => exact .nil
  | cons c text ih =>
    rw [List.forall_mem_cons] at plain
    exact .cons (.itself plain.1) (ih plain.2)

/-- A character of ASCII is its own byte, and no other character has bytes of ASCII. -/
theorem byte_of_mem_utf8EncodeChar {c : Char} {b : UInt8} (member : b ∈ String.utf8EncodeChar c) :
    b.toNat = c.toNat ∨ 0x80 ≤ b.toNat ∧ 0x80 ≤ c.toNat := by
  have shape := utf8Shape c
  generalize c.toNat = n, String.utf8EncodeChar c = bytes at shape member
  cases shape <;> simp only [List.mem_cons, List.not_mem_nil, or_false] at member
  case one small =>
    rw [member, toNat_byte (by omega)]
    exact Or.inl rfl
  case two =>
    obtain rfl | rfl := member <;> simp (disch := omega) only [toNat_byte, toNat_continuation] <;> omega
  case three =>
    obtain rfl | rfl | rfl := member <;> simp (disch := omega) only [toNat_byte, toNat_continuation] <;> omega
  case four =>
    obtain rfl | rfl | rfl | rfl := member <;> simp (disch := omega) only [toNat_byte, toNat_continuation] <;> omega

/-- Bytes of ASCII belong to no other characters than their own. -/
theorem not_mem_flatMap_utf8EncodeChar {b : UInt8} (ascii : b.toNat < 0x80) {cs : List Char}
    (absent : Char.ofNat b.toNat ∉ cs) : b ∉ cs.flatMap String.utf8EncodeChar := by
  rw [List.mem_flatMap]
  rintro ⟨c, among, member⟩
  obtain same | ⟨long, -⟩ := byte_of_mem_utf8EncodeChar member
  · rw [same, Char.ofNat_toNat] at absent
    exact absent among
  · omega

theorem utf8_append (s t : String) : utf8 (s ++ t) = utf8 s ++ utf8 t := by
  unfold utf8
  rw [String.toList_append, List.flatMap_append]

/-- The bytes of a query with spaces for plus signs. -/
def spaced (bytes : Bytes) : Bytes := bytes.map fun b => if b = 0x2B then 0x20 else b

theorem spaced_append (xs ys : Bytes) : spaced (xs ++ ys) = spaced xs ++ spaced ys := List.map_append

theorem spaced_of_not_mem {bytes : Bytes} (absent : 0x2B ∉ bytes) : spaced bytes = bytes := by
  refine (List.map_congr_left fun b member => if_neg ?_).trans (List.map_id _)
  rintro rfl
  exact absent member

theorem unescape_cons {b : UInt8} (plain : b ≠ 0x25) (rest : Bytes) : unescape (b :: rest) = b :: unescape rest := by
  rw [unescape]
  rintro _ _ _ same
  exact absurd same plain

theorem unescape_append {bytes : Bytes} (absent : 0x25 ∉ bytes) (rest : Bytes) :
    unescape (bytes ++ rest) = bytes ++ unescape rest := by
  induction bytes with
  | nil => rfl
  | cons b bytes ih =>
    rw [List.mem_cons, not_or] at absent
    rw [List.cons_append, unescape_cons (Ne.symm absent.1), ih absent.2, List.cons_append]

/-- A hexadecimal digit is a character of ASCII, and none of the marks. -/
theorem plain_of_hexValue? {c : Char} {n : Nat} (digit : hexValue? c = some n) : c.toNat < 0x80 ∧ c ∉ formMarks := by
  have bounds : 48 ≤ c.toNat ∧ c.toNat ≤ 57 ∨ 97 ≤ c.toNat ∧ c.toNat ≤ 102 ∨ 65 ≤ c.toNat ∧ c.toNat ≤ 70 := by
    unfold hexValue? at digit
    split at digit
    next range => exact Or.inl (by simpa [Char.le_def, UInt32.le_iff_toNat_le] using range)
    · split at digit
      next range => exact Or.inr (Or.inl (by simpa [Char.le_def, UInt32.le_iff_toNat_le] using range))
      · split at digit
        next range => exact Or.inr (Or.inr (by simpa [Char.le_def, UInt32.le_iff_toNat_le] using range))
        next => cases digit
  refine ⟨by omega, ?_⟩
  simp only [formMarks, List.mem_cons, List.not_mem_nil, or_false]
  rintro (rfl | rfl | rfl | rfl) <;> revert bounds <;> decide

/-- The bytes of plain characters are read as they are. -/
theorem unescape_of_plain {cs : List Char} (plain : ∀ c ∈ cs, c ∉ formMarks) (rest : Bytes) :
    unescape (spaced (cs.flatMap String.utf8EncodeChar) ++ rest) =
      cs.flatMap String.utf8EncodeChar ++ unescape rest := by
  have absent {c : Char} (isMark : c ∈ formMarks) : c ∉ cs := fun member => plain c member isMark
  have noPlus : 0x2B ∉ cs.flatMap String.utf8EncodeChar :=
    not_mem_flatMap_utf8EncodeChar (by decide) (absent (c := '+') (by decide))
  have noPercent : 0x25 ∉ cs.flatMap String.utf8EncodeChar :=
    not_mem_flatMap_utf8EncodeChar (by decide) (absent (c := '%') (by decide))
  rw [spaced_of_not_mem noPlus, unescape_append noPercent]

theorem utf8EncodeChar_ascii {c : Char} (ascii : c.toNat < 0x80) :
    String.utf8EncodeChar c = [UInt8.ofNat c.toNat] := if_pos (Nat.le_of_lt_succ ascii)

/-- An escape is read as its byte. -/
theorem unescape_of_escapes {b : UInt8} {written : List Char} (escapes : Escapes b written) (rest : Bytes) :
    unescape (spaced (written.flatMap String.utf8EncodeChar) ++ rest) = b :: unescape rest := by
  obtain ⟨high, low, rfl, highDigit, lowDigit⟩ := escapes
  obtain ⟨highAscii, highPlain⟩ := plain_of_hexValue? highDigit
  obtain ⟨lowAscii, lowPlain⟩ := plain_of_hexValue? lowDigit
  have bytes : spaced (['%', high, low].flatMap String.utf8EncodeChar) =
      [0x25, UInt8.ofNat high.toNat, UInt8.ofNat low.toNat] := by
    have noPlus : '+' ∉ ['%', high, low] := by
      simp only [List.mem_cons, List.not_mem_nil, or_false, not_or]
      refine ⟨by decide, ?_, ?_⟩ <;> rintro rfl
      · exact highPlain (by decide)
      · exact lowPlain (by decide)
    rw [spaced_of_not_mem (not_mem_flatMap_utf8EncodeChar (by decide) noPlus)]
    simp only [List.flatMap_cons, List.flatMap_nil, utf8EncodeChar_ascii highAscii, utf8EncodeChar_ascii lowAscii]
    rfl
  have named {c : Char} (ascii : c.toNat < 0x80) : Char.ofNat (UInt8.ofNat c.toNat).toNat = c := by
    rw [toNat_byte (by omega), Char.ofNat_toNat]
  have value : escapedByte? (UInt8.ofNat high.toNat) (UInt8.ofNat low.toNat) = some b := by
    unfold escapedByte?
    rw [named highAscii, named lowAscii, highDigit, lowDigit]
    show some (UInt8.ofNat (b.toNat / 16 * 16 + b.toNat % 16)) = some b
    rw [Nat.div_add_mod', UInt8.ofNat_toNat]
  rw [bytes]
  show unescape (0x25 :: UInt8.ofNat high.toNat :: UInt8.ofNat low.toNat :: rest) = _
  rw [unescape, value]

/-- Escapes are read as their bytes. -/
theorem unescape_of_allEscapes {bytes : Bytes} {escapes : List (List Char)} (each : List.Forall₂ Escapes bytes escapes)
    (rest : Bytes) :
    unescape (spaced (escapes.flatten.flatMap String.utf8EncodeChar) ++ rest) = bytes ++ unescape rest := by
  induction each with
  | nil => rfl
  | cons escapes _ ih =>
    rw [List.flatten_cons, List.flatMap_append, spaced_append, List.append_assoc, unescape_of_escapes escapes, ih]
    rfl

theorem unescape_of_writtenChar {c : Char} {written : List Char} (isWritten : WrittenChar c written) (rest : Bytes) :
    unescape (spaced (written.flatMap String.utf8EncodeChar) ++ rest) = String.utf8EncodeChar c ++ unescape rest := by
  cases isWritten with
  | itself plain =>
    rw [unescape_of_plain (by simpa using plain), List.flatMap_singleton]
  | plus space =>
    subst space
    exact unescape_cons (by decide) _
  | escaped each => exact unescape_of_allEscapes each rest

/-- However a text is written, it is read. -/
theorem unescape_of_written {text written : List Char} (isWritten : Written text written) :
    unescape (spaced (written.flatMap String.utf8EncodeChar)) = text.flatMap String.utf8EncodeChar := by
  induction isWritten with
  | nil =>
    show unescape [] = []
    rw [unescape]
  | cons first _ ih => rw [List.flatMap_append, spaced_append, unescape_of_writtenChar first, ih, List.flatMap_cons]

/-- However a text is written, it is read as itself. -/
theorem formText_of_written {text written : String} (isWritten : Written text.toList written.toList) :
    formText (utf8 written) = text := by
  have read : unescape (spaced (utf8 written)) = utf8 text := unescape_of_written isWritten
  show ofUtf8Lossy (unescape (spaced (utf8 written))) = text
  rw [read, ofUtf8Lossy_utf8]

/-- The pairs of queries with an ampersand between them are the pairs of either. -/
theorem formPairs_append (query query' : String) :
    formPairs (query ++ "&" ++ query') = formPairs query ++ formPairs query' := by
  have bytes : utf8 (query ++ "&" ++ query') = utf8 query ++ 0x26 :: utf8 query' := by
    rw [utf8_append, utf8_append, List.append_assoc]
    rfl
  unfold formPairs
  rw [bytes, splitAll_append, List.filter_append, List.map_append]

theorem mark_not_mem_escapes {bytes : Bytes} {escapes : List (List Char)} (each : List.Forall₂ Escapes bytes escapes) :
    '&' ∉ escapes.flatten ∧ '=' ∉ escapes.flatten := by
  induction each with
  | nil => exact ⟨nofun, nofun⟩
  | cons escapes _ ih =>
    obtain ⟨high, low, rfl, highDigit, lowDigit⟩ := escapes
    have highPlain := (plain_of_hexValue? highDigit).2
    have lowPlain := (plain_of_hexValue? lowDigit).2
    simp only [formMarks, List.mem_cons, List.not_mem_nil, or_false, not_or] at highPlain lowPlain
    simp only [List.flatten_cons, List.mem_append, List.mem_cons, List.not_mem_nil, or_false, not_or]
    exact ⟨⟨⟨by decide, Ne.symm highPlain.2.1, Ne.symm lowPlain.2.1⟩, ih.1⟩,
      ⟨by decide, Ne.symm highPlain.2.2.2, Ne.symm lowPlain.2.2.2⟩, ih.2⟩

theorem mark_not_mem_writtenChar {c : Char} {written : List Char} (isWritten : WrittenChar c written) :
    '&' ∉ written ∧ '=' ∉ written := by
  cases isWritten with
  | itself plain =>
    simp only [formMarks, List.mem_cons, List.not_mem_nil, or_false, not_or] at plain
    exact ⟨by simpa using Ne.symm plain.2.1, by simpa using Ne.symm plain.2.2.2⟩
  | plus => decide
  | escaped each => exact mark_not_mem_escapes each

/-- However a text is written, the marks between parameters are not in it. -/
theorem mark_not_mem_written {text written : List Char} (isWritten : Written text written) :
    '&' ∉ written ∧ '=' ∉ written := by
  induction isWritten with
  | nil => exact ⟨nofun, nofun⟩
  | cons first _ ih =>
    have here := mark_not_mem_writtenChar first
    exact ⟨by simp [here.1, ih.1], by simp [here.2, ih.2]⟩

/-- What has no ampersand and stands around an equals sign is one pair. -/
theorem formPairs_of_absent {first second : String} (joined : '&' ∉ first.toList) (plain : '=' ∉ first.toList)
    (joined' : '&' ∉ second.toList) :
    formPairs (first ++ "=" ++ second) = [(formText (utf8 first), formText (utf8 second))] := by
  have bytes : utf8 (first ++ "=" ++ second) = utf8 first ++ 0x3D :: utf8 second := by
    rw [utf8_append, utf8_append, List.append_assoc]
    rfl
  have noAmpersand : 0x26 ∉ utf8 first ++ 0x3D :: utf8 second := by
    have before := not_mem_flatMap_utf8EncodeChar (b := 0x26) (by decide) joined
    have after := not_mem_flatMap_utf8EncodeChar (b := 0x26) (by decide) joined'
    simp only [List.mem_append, List.mem_cons, not_or]
    exact ⟨before, by decide, after⟩
  have noEquals : 0x3D ∉ utf8 first := not_mem_flatMap_utf8EncodeChar (by decide) plain
  unfold formPairs
  rw [bytes, splitAll_of_not_mem noAmpersand, List.filter_cons_of_pos (by simp), List.filter_nil, List.map_singleton,
    splitFirst_append noEquals]

/-- A name and a value, however they are written, with an equals sign between them are one pair. -/
theorem formPairs_of_written {name value first second : String} (isName : Written name.toList first.toList)
    (isValue : Written value.toList second.toList) : formPairs (first ++ "=" ++ second) = [(name, value)] := by
  have marks := mark_not_mem_written isName
  rw [formPairs_of_absent marks.1 marks.2 (mark_not_mem_written isValue).1, formText_of_written isName,
    formText_of_written isValue]

end AssetRegistry.Text
