import AssetRegistry.Text.Base64
import AssetRegistry.Uuid

namespace AssetRegistry.Text

/-- A list is cut at the last separator. -/
theorem splitLast_append {α : Type} [BEq α] [LawfulBEq α] {separator : α} (before : List α) {after : List α}
    (absent : separator ∉ after) : splitLast separator (before ++ separator :: after) = some (before, after) := by
  have absent' : separator ∉ after.reverse := fun member => absent (List.mem_reverse.1 member)
  have reversed : (before ++ separator :: after).reverse = after.reverse ++ separator :: before.reverse := by simp
  have last : (before ++ separator :: after).reverse.takeWhile (· != separator) = after.reverse := by
    rw [reversed, takeWhile_of_edge absent' (by simp)]
  unfold splitLast
  rw [last, reversed]
  dsimp only
  rw [List.drop_left]
  dsimp only
  rw [List.reverse_reverse, List.reverse_reverse]

theorem base64Value?_base64Char {n : Nat} (small : n < 64) : base64Value? (base64Char n) = some n := by
  have all : ∀ n < 64, base64Value? (base64Char n) = some n := by decide +kernel
  exact all n small

theorem base64Char_ne_point (n : Nat) : base64Char n ≠ '.' := by
  have all : ∀ n < 64, base64Char n ≠ '.' := by decide +kernel
  by_cases small : n < 64
  · exact all n small
  · have last : base64Char n = '_' := by
      unfold base64Char
      rw [if_neg (by omega), if_neg (by omega), if_neg (by omega), if_neg (by omega)]
    rw [last]
    decide

/-- No point occurs in base 64, so points can stand between parts. -/
theorem point_not_mem_toBase64 (bytes : Bytes) : '.' ∉ toBase64 bytes := by
  induction bytes using toBase64.induct with
  | case1 a b c rest ih => simp [toBase64, ih, (base64Char_ne_point _).symm]
  | case2 a b => simp [toBase64, (base64Char_ne_point _).symm]
  | case3 a => simp [toBase64, (base64Char_ne_point _).symm]
  | case4 => simp [toBase64]

theorem byte_of_nat {b : UInt8} {n : Nat} (same : n % 256 = b.toNat) : UInt8.ofNat n = b := by
  rw [← UInt8.toNat_inj, UInt8.toNat_ofNat']
  exact same

/-- Bytes read back from base 64, three at a time. -/
theorem ofBase64?_toBase64 (bytes : Bytes) : ofBase64? (toBase64 bytes) = some bytes := by
  induction bytes using toBase64.induct with
  | case1 a b c rest ih =>
    have boundA := a.toNat_lt
    have boundB := b.toNat_lt
    have boundC := c.toNat_lt
    rw [toBase64, ofBase64?, ih, base64Value?_base64Char (by omega), base64Value?_base64Char (by omega),
      base64Value?_base64Char (by omega), base64Value?_base64Char (by omega)]
    refine congrArg some ?_
    rw [byte_of_nat (b := a) (by omega), byte_of_nat (b := b) (by omega), byte_of_nat (b := c) (by omega)]
  | case2 a b =>
    have boundA := a.toNat_lt
    have boundB := b.toNat_lt
    rw [toBase64, ofBase64?, base64Value?_base64Char (by omega), base64Value?_base64Char (by omega),
      base64Value?_base64Char (by omega)]
    refine (if_pos (by omega)).trans (congrArg some ?_)
    rw [byte_of_nat (b := a) (by omega), byte_of_nat (b := b) (by omega)]
  | case3 a =>
    have boundA := a.toNat_lt
    rw [toBase64, ofBase64?, base64Value?_base64Char (by omega), base64Value?_base64Char (by omega)]
    refine (if_pos (by omega)).trans (congrArg some ?_)
    rw [byte_of_nat (b := a) (by omega)]
  | case4 => rfl

theorem ofBase64_toBase64 (bytes : Bytes) : ofBase64 (toBase64 bytes) = .ok bytes := by
  unfold ofBase64
  rw [ofBase64?_toBase64]

theorem toNat_byte {n : Nat} (small : n < 256) : (UInt8.ofNat n).toNat = n := by
  rw [UInt8.toNat_ofNat', Nat.mod_eq_of_lt small]

/-- A byte that continues a character, with the six bits it adds. -/
def continuation (n : Nat) : UInt8 := UInt8.ofNat (n + 0x80)

theorem toNat_continuation {n : Nat} (small : n < 64) : (continuation n).toNat = n + 128 := toNat_byte (by omega)

theorem isContinuation_continuation {n : Nat} (small : n < 64) : isContinuation (continuation n) = true := by
  unfold isContinuation
  simp only [UInt8.le_iff_toNat_le, UInt8.lt_iff_toNat_lt, toNat_continuation small, Bool.and_eq_true,
    decide_eq_true_eq]
  exact ⟨Nat.le_add_left _ _, by show n + 128 < 192; omega⟩

theorem payload_continuation {n : Nat} (small : n < 64) : payload (continuation n) = n := by
  unfold payload
  rw [UInt8.toNat_and, toNat_continuation small]
  refine (Nat.and_two_pow_sub_one_eq_mod _ 6).trans ?_
  omega

/-- The bounds of the second byte keep out overlong forms, surrogates and what lies beyond Unicode. -/
theorem second_fits {lead second : UInt8} (low : 0x80 ≤ second.toNat) (high : second.toNat ≤ 0xBF)
    (notOverlong : lead.toNat = 0xE0 → 0xA0 ≤ second.toNat) (noSurrogate : lead.toNat = 0xED → second.toNat ≤ 0x9F)
    (notOverlongEither : lead.toNat = 0xF0 → 0x90 ≤ second.toNat) (inSpace : lead.toNat = 0xF4 → second.toNat ≤ 0x8F) :
    ((secondByteRange lead).1 ≤ second && second ≤ (secondByteRange lead).2) = true := by
  unfold secondByteRange
  simp only [Bool.and_eq_true, decide_eq_true_eq, UInt8.le_iff_toNat_le]
  split
  next same => exact ⟨notOverlong (by rw [same]; rfl), high⟩
  · split
    next same => exact ⟨low, noSurrogate (by rw [same]; rfl)⟩
    · split
      next same => exact ⟨notOverlongEither (by rw [same]; rfl), high⟩
      · split
        next same => exact ⟨low, inSpace (by rw [same]; rfl)⟩
        · exact ⟨low, high⟩

theorem utf8Head_one {v : Nat} (small : v < 0x80) (rest : Bytes) :
    utf8Head (UInt8.ofNat v) rest = .char (Char.ofNat v) 1 := by
  have lead := toNat_byte (show v < 256 by omega)
  unfold utf8Head
  rw [if_pos (by rw [UInt8.lt_iff_toNat_lt, lead]; exact small), lead]

/-- A first byte of a longer form. -/
theorem utf8Head_long {lead second : UInt8} (low : 0xC2 ≤ lead.toNat) (high : lead.toNat ≤ 0xF4)
    (fits : ((secondByteRange lead).1 ≤ second && second ≤ (secondByteRange lead).2) = true) (rest : Bytes) :
    utf8Head lead (second :: rest) =
      if lead < 0xE0 then .char (Char.ofNat ((lead &&& 0x1F).toNat * 64 + payload second)) 2
      else match rest with
        | [] => .broken 2
        | third :: rest =>
          if !isContinuation third then .broken 2
          else if lead < 0xF0 then
            .char (Char.ofNat (((lead &&& 0x0F).toNat * 64 + payload second) * 64 + payload third)) 3
          else match rest with
            | [] => .broken 3
            | fourth :: _ =>
              if !isContinuation fourth then .broken 3
              else .char (Char.ofNat
                ((((lead &&& 0x07).toNat * 64 + payload second) * 64 + payload third) * 64 + payload fourth)) 4 := by
  have notShort : ¬lead < 0x80 := by
    rw [UInt8.lt_iff_toNat_lt]
    exact Nat.not_lt.2 (Nat.le_trans (by decide) low)
  have isLead : ¬(lead < 0xC2 || 0xF4 < lead) = true := by
    simp only [Bool.or_eq_true, decide_eq_true_eq, UInt8.lt_iff_toNat_lt, not_or, Nat.not_lt]
    exact ⟨low, high⟩
  rw [utf8Head, if_neg notShort, if_neg isLead]
  dsimp only
  rw [fits]
  rfl

theorem utf8Head_two {x y : Nat} (long : 2 ≤ x) (boundX : x < 32) (boundY : y < 64) (rest : Bytes) :
    utf8Head (UInt8.ofNat (x + 0xC0)) (continuation y :: rest) = .char (Char.ofNat (x * 64 + y)) 2 := by
  have lead := toNat_byte (show x + 0xC0 < 256 by omega)
  have second := toNat_continuation boundY
  have bits : (UInt8.ofNat (x + 0xC0) &&& 0x1F).toNat = x := by
    rw [UInt8.toNat_and, lead]
    refine (Nat.and_two_pow_sub_one_eq_mod _ 5).trans ?_
    omega
  rw [utf8Head_long (by omega) (by omega)
      (second_fits (by omega) (by omega) (by omega) (by omega) (by omega) (by omega)),
    if_pos (by rw [UInt8.lt_iff_toNat_lt, lead]; show x + 192 < 224; omega), bits, payload_continuation boundY]

theorem utf8Head_three {x y z : Nat} (boundX : x < 16) (boundY : y < 64) (boundZ : z < 64) (long : x = 0 → 32 ≤ y)
    (noSurrogate : x = 13 → y < 32) (rest : Bytes) :
    utf8Head (UInt8.ofNat (x + 0xE0)) (continuation y :: continuation z :: rest) =
      .char (Char.ofNat ((x * 64 + y) * 64 + z)) 3 := by
  have lead := toNat_byte (show x + 0xE0 < 256 by omega)
  have second := toNat_continuation boundY
  have bits : (UInt8.ofNat (x + 0xE0) &&& 0x0F).toNat = x := by
    rw [UInt8.toNat_and, lead]
    refine (Nat.and_two_pow_sub_one_eq_mod _ 4).trans ?_
    omega
  rw [utf8Head_long (by omega) (by omega)
      (second_fits (by omega) (by omega) (by omega) (by omega) (by omega) (by omega)),
    if_neg (by rw [UInt8.lt_iff_toNat_lt, lead]; show ¬x + 224 < 224; omega)]
  dsimp only
  rw [isContinuation_continuation boundZ, if_neg (by decide),
    if_pos (by rw [UInt8.lt_iff_toNat_lt, lead]; show x + 224 < 240; omega), bits, payload_continuation boundY,
    payload_continuation boundZ]

theorem utf8Head_four {w x y z : Nat} (boundW : w < 5) (boundX : x < 64) (boundY : y < 64) (boundZ : z < 64)
    (long : w = 0 → 16 ≤ x) (inSpace : w = 4 → x < 16) (rest : Bytes) :
    utf8Head (UInt8.ofNat (w + 0xF0)) (continuation x :: continuation y :: continuation z :: rest) =
      .char (Char.ofNat (((w * 64 + x) * 64 + y) * 64 + z)) 4 := by
  have lead := toNat_byte (show w + 0xF0 < 256 by omega)
  have second := toNat_continuation boundX
  have bits : (UInt8.ofNat (w + 0xF0) &&& 0x07).toNat = w := by
    rw [UInt8.toNat_and, lead]
    refine (Nat.and_two_pow_sub_one_eq_mod _ 3).trans ?_
    omega
  rw [utf8Head_long (by omega) (by omega)
      (second_fits (by omega) (by omega) (by omega) (by omega) (by omega) (by omega)),
    if_neg (by rw [UInt8.lt_iff_toNat_lt, lead]; show ¬w + 240 < 224; omega)]
  dsimp only
  rw [isContinuation_continuation boundY, if_neg (by decide),
    if_neg (by rw [UInt8.lt_iff_toNat_lt, lead]; show ¬w + 240 < 240; omega),
    isContinuation_continuation boundZ, if_neg (by decide), bits, payload_continuation boundX,
    payload_continuation boundY, payload_continuation boundZ]

/-- The bytes of a character, followed by others, begin with the character. -/
theorem utf8Head_utf8EncodeChar (c : Char) (rest : Bytes) : ∃ lead tail, String.utf8EncodeChar c = lead :: tail ∧
    utf8Head lead (tail ++ rest) = .char c (tail.length + 1) := by
  have valid : c.toNat < 0xD800 ∨ 0xDFFF < c.toNat ∧ c.toNat < 0x110000 := c.valid
  have named {n : Nat} (same : n = c.toNat) : Char.ofNat n = c := same ▸ Char.ofNat_toNat c
  unfold String.utf8EncodeChar
  change ∃ lead tail, (if c.toNat ≤ 0x7F then _ else if c.toNat ≤ 0x7FF then _ else if c.toNat ≤ 0xFFFF then _ else _) =
    lead :: tail ∧ _
  split
  next short => exact ⟨_, _, rfl, (utf8Head_one (v := c.toNat) (by omega) rest).trans (by rw [named rfl]; rfl)⟩
  · split
    next two =>
      refine ⟨_, _, rfl, (utf8Head_two (x := c.toNat / 64 % 0x20) (y := c.toNat % 0x40) (by omega) (by omega) (by omega)
        rest).trans ?_⟩
      rw [named (by omega)]
      rfl
    · split
      next three =>
        refine ⟨_, _, rfl, (utf8Head_three (x := c.toNat / 4096 % 0x10) (y := c.toNat / 64 % 0x40) (z := c.toNat % 0x40)
          (by omega) (by omega) (by omega) (by omega) (by omega) rest).trans ?_⟩
        rw [named (by omega)]
        rfl
      next four =>
        refine ⟨_, _, rfl, (utf8Head_four (w := c.toNat / 262144 % 0x08) (x := c.toNat / 4096 % 0x40)
          (y := c.toNat / 64 % 0x40) (z := c.toNat % 0x40) (by omega) (by omega) (by omega) (by omega) (by omega)
          (by omega) rest).trans ?_⟩
        rw [named (by omega)]
        rfl

/-- The characters of a text are read from its bytes one by one. -/
theorem utf8CharsWithin_flatMap (cs : List Char) {fuel : Nat}
    (enough : (cs.flatMap String.utf8EncodeChar).length ≤ fuel) :
    utf8CharsWithin fuel (cs.flatMap String.utf8EncodeChar) = cs.map some := by
  induction cs generalizing fuel with
  | nil => cases fuel <;> rfl
  | cons c cs ih =>
    obtain ⟨lead, tail, encoded, head⟩ := utf8Head_utf8EncodeChar c (cs.flatMap String.utf8EncodeChar)
    rw [List.flatMap_cons, encoded, List.length_append, List.length_cons] at enough
    obtain ⟨fuel, rfl⟩ : ∃ less, fuel = less + 1 := ⟨fuel - 1, by omega⟩
    rw [List.flatMap_cons, encoded, List.cons_append, utf8CharsWithin, head]
    dsimp only
    rw [List.drop_succ_cons, List.drop_left, ih (by omega), List.map_cons]

theorem utf8Chars_utf8 (s : String) : utf8Chars (utf8 s) = s.toList.map some :=
  utf8CharsWithin_flatMap s.toList (Nat.le_refl _)

/-- The strict reading takes every text. -/
theorem ofUtf8?_utf8 (s : String) : ofUtf8? (utf8 s) = some s := by
  have all (cs : List Char) : (cs.map some).mapM id = some cs := by
    induction cs with
    | nil => rfl
    | cons c cs ih =>
      rw [List.map_cons, List.mapM_cons, ih]
      rfl
  unfold ofUtf8?
  rw [utf8Chars_utf8, all, Option.map_some, String.ofList_toList]

/-- The forgiving reading of a text forgives nothing. -/
theorem ofUtf8Lossy_utf8 (s : String) : ofUtf8Lossy (utf8 s) = s := by
  unfold ofUtf8Lossy
  rw [utf8Chars_utf8, List.map_map]
  exact (congrArg String.ofList (List.map_id s.toList)).trans String.ofList_toList

/-- The bytes of a character by the digits of its number to the base 64. -/
inductive Utf8Shape : Nat → Bytes → Prop
  | one {x : Nat} : x < 0x80 → Utf8Shape x [UInt8.ofNat x]
  | two {x y : Nat} : 2 ≤ x → x < 32 → y < 64 → Utf8Shape (x * 64 + y) [UInt8.ofNat (x + 0xC0), continuation y]
  | three {x y z : Nat} : x < 16 → y < 64 → z < 64 → 0x800 ≤ (x * 64 + y) * 64 + z →
      Utf8Shape ((x * 64 + y) * 64 + z) [UInt8.ofNat (x + 0xE0), continuation y, continuation z]
  | four {w x y z : Nat} : w < 8 → x < 64 → y < 64 → z < 64 → 0x10000 ≤ ((w * 64 + x) * 64 + y) * 64 + z →
      Utf8Shape (((w * 64 + x) * 64 + y) * 64 + z)
        [UInt8.ofNat (w + 0xF0), continuation x, continuation y, continuation z]

/-- The bytes of a character have one of four shapes, by the number of its bits. -/
theorem utf8Shape (c : Char) : Utf8Shape c.toNat (String.utf8EncodeChar c) := by
  have valid : c.toNat < 0xD800 ∨ 0xDFFF < c.toNat ∧ c.toNat < 0x110000 := c.valid
  have named {n : Nat} {bytes : Bytes} (shape : Utf8Shape n bytes) (same : n = c.toNat) : Utf8Shape c.toNat bytes :=
    same ▸ shape
  unfold String.utf8EncodeChar
  change Utf8Shape c.toNat
    (if c.toNat ≤ 0x7F then _ else if c.toNat ≤ 0x7FF then _ else if c.toNat ≤ 0xFFFF then _ else _)
  split
  · exact .one (by omega)
  · split
    · exact named (.two (x := c.toNat / 64 % 0x20) (y := c.toNat % 0x40) (by omega) (by omega) (by omega)) (by omega)
    · split
      · exact named (.three (x := c.toNat / 4096 % 0x10) (y := c.toNat / 64 % 0x40) (z := c.toNat % 0x40) (by omega)
          (by omega) (by omega) (by omega)) (by omega)
      · exact named (.four (w := c.toNat / 262144 % 0x08) (x := c.toNat / 4096 % 0x40) (y := c.toNat / 64 % 0x40)
          (z := c.toNat % 0x40) (by omega) (by omega) (by omega) (by omega) (by omega)) (by omega)

theorem ofNat_cons_lt {m n : Nat} (smallM : m < 256) (smallN : n < 256) {xs ys : Bytes} :
    UInt8.ofNat m :: xs < UInt8.ofNat n :: ys ↔ m < n ∨ m = n ∧ xs < ys := by
  rw [List.cons_lt_cons_iff, UInt8.lt_iff_toNat_lt, ← UInt8.toNat_inj, toNat_byte smallM, toNat_byte smallN]

/-- A smaller character has smaller bytes, whatever follows it. -/
theorem Utf8Shape.lt {m n : Nat} {as bs : Bytes} (first : Utf8Shape m as) (second : Utf8Shape n bs) (below : m < n)
    (xs ys : Bytes) : as ++ xs < bs ++ ys := by
  cases first <;> cases second <;>
    simp (disch := omega) only [List.cons_append, List.nil_append, continuation, ofNat_cons_lt] <;> omega

/-- Texts are in the order of their bytes. -/
theorem utf8_lt {s t : String} (below : s < t) : utf8 s < utf8 t := by
  rw [String.lt_iff] at below
  unfold utf8
  generalize s.toList = cs, t.toList = ds at below
  induction cs generalizing ds with
  | nil =>
    cases ds with
    | nil => exact absurd below (List.lt_irrefl _)
    | cons d ds =>
      obtain ⟨lead, tail, encoded, -⟩ := utf8Head_utf8EncodeChar d []
      rw [List.flatMap_cons, encoded]
      exact List.nil_lt_cons _ _
  | cons c cs ih =>
    cases ds with
    | nil => cases below
    | cons d ds =>
      rw [List.flatMap_cons, List.flatMap_cons]
      rcases List.cons_lt_cons_iff.1 below with first | ⟨rfl, rest⟩
      · exact (utf8Shape c).lt (utf8Shape d) first _ _
      · exact List.append_left_lt (ih ds rest)
theorem hexValue?_hexDigit {n : Nat} (small : n < 16) : hexValue? (hexDigit n) = some n := by
  have all : ∀ n < 16, hexValue? (hexDigit n) = some n := by decide +kernel
  exact all n small

@[simp] theorem length_hexDigits (width n : Nat) : (hexDigits width n).length = width := by
  induction width generalizing n with
  | zero => rfl
  | succ width ih => rw [hexDigits, List.length_append, ih, List.length_singleton]

/-- A number reads back from its digits, up to their width. -/
theorem ofHexDigits?_hexDigits (width n : Nat) : ofHexDigits? (hexDigits width n) = some (n % Nat.pow 16 width) := by
  induction width generalizing n with
  | zero => simp [hexDigits, ofHexDigits?, Nat.mod_one]
  | succ width ih =>
    have last : n % 16 < 16 := Nat.mod_lt n (by decide)
    have before := ih (n / 16)
    unfold ofHexDigits? at before ⊢
    rw [hexDigits, List.foldlM_append, before]
    simp only [Option.bind_eq_bind, Option.bind_some, List.foldlM_cons, List.foldlM_nil, hexValue?_hexDigit last,
      Option.map_some]
    refine congrArg some ?_
    have more : Nat.pow 16 (width + 1) = 16 * Nat.pow 16 width := Nat.pow_succ'
    rw [more, Nat.mod_mul]
    omega

end AssetRegistry.Text

namespace AssetRegistry.Uuid
open Text

theorem parse?_grouped {a b c d e : List Char} (eight : a.length = 8) (four : b.length = 4) (next : c.length = 4)
    (last : d.length = 4) (twelve : e.length = 12) :
    parse? (.ofList (a ++ '-' :: b ++ '-' :: c ++ '-' :: d ++ '-' :: e)) = plain? (a ++ b ++ c ++ d ++ e) := by
  have long : (a ++ '-' :: b ++ '-' :: c ++ '-' :: d ++ '-' :: e).length = 36 := by
    simp [eight, four, next, last, twelve]
  have hyphens : hyphenPlaces.all fun i => (a ++ '-' :: b ++ '-' :: c ++ '-' :: d ++ '-' :: e)[i]? = some '-' := by
    simp [hyphenPlaces, List.getElem?_append, List.getElem?_cons, eight, four, next, last]
  have groups : (a ++ '-' :: b ++ '-' :: c ++ '-' :: d ++ '-' :: e).take 8 = a ∧
      ((a ++ '-' :: b ++ '-' :: c ++ '-' :: d ++ '-' :: e).drop 9).take 4 = b ∧
      ((a ++ '-' :: b ++ '-' :: c ++ '-' :: d ++ '-' :: e).drop 14).take 4 = c ∧
      ((a ++ '-' :: b ++ '-' :: c ++ '-' :: d ++ '-' :: e).drop 19).take 4 = d ∧
      (a ++ '-' :: b ++ '-' :: c ++ '-' :: d ++ '-' :: e).drop 24 = e := by
    simp (disch := omega) [List.drop_append, List.drop_of_length_le, eight, four, next, last]
  obtain ⟨first, second, third, fourth, fifth⟩ := groups
  unfold parse? grouped?
  rw [String.toList_ofList]
  dsimp only
  rw [if_neg (by omega), if_pos long, long, hyphens, first, second, third, fourth, fifth]
  rfl

/-- An identifier reads back. -/
theorem parse_toText (u : Uuid) : parse u.toText = .ok u := by
  have long : (hexDigits 32 u.bits.toNat).length = 32 := length_hexDigits 32 _
  have whole (ds : List Char) : ds.take 8 ++ (ds.drop 8).take 4 ++ (ds.drop 12).take 4 ++ (ds.drop 16).take 4 ++
      ds.drop 20 = ds := by
    have rejoin (n m : Nat) : (ds.drop n).take m ++ ds.drop (n + m) = ds.drop n := by
      rw [← List.drop_drop, List.take_append_drop]
    rw [List.append_assoc, rejoin 16 4, List.append_assoc, rejoin 12 4, List.append_assoc, rejoin 8 4,
      List.take_append_drop]
  have reads : parse? u.toText = some u := by
    unfold toText
    dsimp only
    rw [parse?_grouped (by simp [long]) (by simp [long]) (by simp [long]) (by simp [long]) (by simp [long]), whole,
      plain?, if_pos long, ofHexDigits?_hexDigits]
    refine congrArg some (congrArg Uuid.mk ?_)
    have small : u.bits.toNat < Nat.pow 16 32 := u.bits.isLt
    rw [Nat.mod_eq_of_lt small, BitVec.ofNat_toNat]
    simp
  unfold parse
  rw [reads]

end AssetRegistry.Uuid
