import AssetRegistry.Json.Decoder

namespace AssetRegistry.Json

namespace Outcome
variable {α β : Type} {o : Outcome α} {a : α} {b : β} {rest : List Char}

theorem bind_eq_ok {f : α → List Char → Outcome β} :
    o.bind f = .ok b rest ↔ ∃ a mid, o = .ok a mid ∧ f a mid = .ok b rest := by
  constructor
  · intro reads
    cases o with
    | ok a mid => exact ⟨a, mid, rfl, reads⟩
    | fail e mid => cases reads
  · rintro ⟨a, mid, rfl, reads⟩
    exact reads

theorem map_eq_ok {f : α → β} : o.map f = .ok b rest ↔ ∃ a, o = .ok a rest ∧ f a = b := by
  constructor
  · intro reads
    obtain ⟨a, mid, rfl, reads⟩ := bind_eq_ok.1 reads
    obtain ⟨same, rfl⟩ := Outcome.ok.inj reads
    exact ⟨a, rfl, same⟩
  · rintro ⟨a, rfl, rfl⟩
    rfl

theorem andThen_eq_ok {f : α → Except Mismatch β} : o.andThen f = .ok b rest ↔ ∃ a, o = .ok a rest ∧ f a = .ok b := by
  constructor
  · intro reads
    obtain ⟨a, mid, rfl, continues⟩ := bind_eq_ok.1 reads
    cases found : f a with
    | error m =>
      rw [found] at continues
      cases continues
    | ok b' =>
      rw [found] at continues
      obtain ⟨rfl, rfl⟩ := Outcome.ok.inj continues
      exact ⟨a, rfl, found⟩
  · rintro ⟨a, rfl, found⟩
    show Outcome.bind _ _ = _
    unfold bind
    dsimp only
    rw [found]

end Outcome

open Outcome

theorem skipSpace_cons {c : Char} (filled : isSpace c = false) (cs : List Char) : skipSpace (c :: cs) = c :: cs :=
  List.dropWhile_cons_of_neg (by simp [filled])

theorem rest_of_readHex {cs rest : List Char} {n : Nat} (reads : readHex cs = .ok n rest) :
    rest.length + 4 = cs.length := by
  unfold readHex at reads
  split at reads
  · cases reads
  · split at reads
    · split at reads
      next four =>
        obtain ⟨-, rfl⟩ := Outcome.ok.inj reads
        rw [List.length_take] at four
        rw [List.length_drop]
        omega
      · cases reads
    · cases reads

/-- An escape by number is one of four digits, or two of them in a row. -/
theorem escapes_of_readCodePoint {cs rest : List Char} {n : Nat} (reads : readCodePoint cs = .ok n rest) :
    (∃ high, readHex cs = .ok high rest) ∨
      ∃ high low between, readHex cs = .ok high ('\\' :: 'u' :: between) ∧ readHex between = .ok low rest := by
  obtain ⟨high, mid, first, reads⟩ := bind_eq_ok.1 reads
  split at reads
  · cases reads
  · split at reads
    · obtain ⟨-, rfl⟩ := Outcome.ok.inj reads
      exact Or.inl ⟨high, first⟩
    · split at reads
      any_goals cases reads
      next between =>
        obtain ⟨low, last, second, reads⟩ := bind_eq_ok.1 reads
        split at reads
        · cases reads
        · obtain ⟨-, rfl⟩ := Outcome.ok.inj reads
          exact Or.inr ⟨high, low, between, first, second⟩

/-- A string that can be read can be passed over. A pair of surrogates is one character to the reader and two escapes to
the other one, so they count differently. -/
theorem skipStringWithin_of_reads {fuel room : Nat} {before cs rest : List Char} {s : String}
    (reads : readStringWithin fuel before cs = .ok s rest) (enough : cs.length < room) :
    skipStringWithin room cs = .ok () rest := by
  obtain ⟨room, rfl⟩ : ∃ less, room = less + 1 := ⟨room - 1, by omega⟩
  fun_induction readStringWithin fuel before cs generalizing room
  case case1 | case2 | case4 | case7 | case8 => cases reads
  case case3 =>
    obtain ⟨-, rfl⟩ := Outcome.ok.inj reads
    rw [skipStringWithin]
    exact Nat.succ_ne_zero _
  case case5 fuel before cs ih =>
    obtain ⟨n, last, point, reads⟩ := bind_eq_ok.1 reads
    rw [List.length_cons, List.length_cons] at enough
    rw [skipStringWithin]
    obtain ⟨high, first⟩ | ⟨high, low, between, first, second⟩ := escapes_of_readCodePoint point
    · have shorter := rest_of_readHex first
      obtain ⟨room, rfl⟩ : ∃ less, room = less + 1 := ⟨room - 1, by omega⟩
      exact bind_eq_ok.2 ⟨high, last, first, ih n last reads room (by omega)⟩
    · have shorter := rest_of_readHex first
      have shortest := rest_of_readHex second
      rw [List.length_cons, List.length_cons] at shorter
      obtain ⟨room, rfl⟩ : ∃ less, room = less + 2 := ⟨room - 2, by omega⟩
      refine bind_eq_ok.2 ⟨high, _, first, ?_⟩
      rw [skipStringWithin]
      exact bind_eq_ok.2 ⟨low, last, second, ih n last reads room (by omega)⟩
  case case6 fuel before c rest other letter escapes ih =>
    rw [List.length_cons, List.length_cons] at enough
    obtain ⟨room, rfl⟩ : ∃ less, room = less + 1 := ⟨room - 1, by omega⟩
    rw [skipStringWithin, escapes]
    · exact ih reads room (by omega)
    · exact other
  case case9 fuel before c rest quote lone number letter printable ih =>
    rw [List.length_cons] at enough
    obtain ⟨room, rfl⟩ : ∃ less, room = less + 1 := ⟨room - 1, by omega⟩
    rw [skipStringWithin, if_neg printable]
    · exact ih reads room (by omega)
    all_goals assumption

/-- The end of a string is found alike, whether the string is kept or not. -/
theorem skipString_of_readString {cs rest : List Char} {s : String} (reads : readString cs = .ok s rest) :
    skipString cs = .ok () rest := skipStringWithin_of_reads reads (Nat.lt_succ_self _)

/-- What a label that reads is written as: a string, or an object with one key and no value. -/
inductive WrittenLabel (name : String) (cs rest : List Char) : Prop
  | string {inner : List Char} : skipSpace cs = '"' :: inner → readString inner = .ok name rest →
      WrittenLabel name cs rest
  | object {inner key colon value unit after : List Char} : skipSpace cs = Char.ofNat 0x7B :: inner →
      skipSpace inner = '"' :: key → readString key = .ok name colon → readColon colon = .ok () value →
      skipSpace value = 'n' :: unit → readWord () "ull".toList unit = .ok () after →
      skipSpace after = Char.ofNat 0x7D :: rest → WrittenLabel name cs rest

/-- What a label is written as tells its name. -/
theorem WrittenLabel.unique {name other : String} {cs rest last : List Char} (written : WrittenLabel name cs rest)
    (again : WrittenLabel other cs last) : name = other := by
  cases written with
  | string starts reads =>
    cases again with
    | string starts' reads' =>
      obtain ⟨-, rfl⟩ := List.cons.inj (starts.symm.trans starts')
      exact (Outcome.ok.inj (reads.symm.trans reads')).1
    | object starts' => cases starts.symm.trans starts'
  | object starts quoted reads =>
    cases again with
    | string starts' => cases starts.symm.trans starts'
    | object starts' quoted' reads' =>
      obtain ⟨-, rfl⟩ := List.cons.inj (starts.symm.trans starts')
      obtain ⟨-, rfl⟩ := List.cons.inj (quoted.symm.trans quoted')
      exact (Outcome.ok.inj (reads.symm.trans reads')).1

@[simp] theorem skipWithin_done (fuel : Nat) (cs : List Char) : skipWithin (fuel + 1) .after [] cs = .ok () cs := by
  rw [skipWithin]
  exact Nat.succ_ne_zero _

theorem skipWithin_string {cs inner : List Char} (starts : skipSpace cs = '"' :: inner) (fuel : Nat)
    (frames : List Frame) : skipWithin (fuel + 1) .value frames cs =
      (skipString inner).bind fun _ rest => skipWithin fuel .after frames rest := by
  rw [skipWithin, starts]
  rfl

theorem skipWithin_null {cs inner : List Char} (starts : skipSpace cs = 'n' :: inner) (fuel : Nat)
    (frames : List Frame) : skipWithin (fuel + 1) .value frames cs =
      (readWord () "ull".toList inner).bind fun _ rest => skipWithin fuel .after frames rest := by
  rw [skipWithin, starts]
  rfl

/-- An object that is not empty is entered at its first key. -/
theorem skipWithin_object {cs inner key : List Char} {c : Char} (starts : skipSpace cs = Char.ofNat 0x7B :: inner)
    (opens : skipSpace inner = c :: key) (filled : c ≠ Char.ofNat 0x7D) (fuel : Nat) (frames : List Frame) :
    skipWithin (fuel + 1) .value frames cs =
      (skipKey .object (c :: key)).bind fun _ rest => skipWithin fuel .value (.object :: frames) rest := by
  rw [skipWithin, starts]
  change (if Char.ofNat 0x7B = Char.ofNat 0x7B then _ else _) = _
  rw [if_pos rfl]
  dsimp only
  rw [opens]
  exact if_neg filled

/-- Behind the last value the innermost object ends. -/
theorem skipWithin_close {cs rest : List Char} (closes : skipSpace cs = Char.ofNat 0x7D :: rest) (fuel : Nat)
    (frames : List Frame) :
    skipWithin (fuel + 1) .after (.object :: frames) cs = skipWithin fuel .after frames rest := by
  rw [skipWithin, closes]
  rfl

/-- A key and its colon are passed over. -/
theorem skipKey_object {cs key colon value : List Char} {name : String} (quoted : skipSpace cs = '"' :: key)
    (reads : readString key = .ok name colon) (follows : readColon colon = .ok () value) :
    skipKey .object cs = .ok () value := by
  unfold readColon at follows
  unfold skipKey
  dsimp only
  rw [quoted]
  refine bind_eq_ok.2 ⟨(), colon, skipString_of_readString reads, ?_⟩
  split at follows
  · cases follows
  · exact follows
  · cases follows

theorem skipValue_string {cs inner rest : List Char} (starts : skipSpace cs = '"' :: inner)
    (skips : skipString inner = .ok () rest) : skipValue cs = .ok () rest := by
  unfold skipValue
  rw [skipWithin_string starts]
  exact bind_eq_ok.2 ⟨(), rest, skips, skipWithin_done _ _⟩

theorem length_of_skipSpace {cs inner : List Char} {c : Char} (starts : skipSpace cs = c :: inner) : 0 < cs.length := by
  cases cs with
  | nil => cases starts
  | cons => exact Nat.succ_pos _

/-- A label in either form is passed over like any other value. -/
theorem WrittenLabel.skipValue {name : String} {cs rest : List Char} (written : WrittenLabel name cs rest) :
    skipValue cs = .ok () rest := by
  cases written with
  | string starts reads => exact skipValue_string starts (skipString_of_readString reads)
  | object starts quoted reads colon null unit closes =>
    have filled := length_of_skipSpace starts
    obtain ⟨fuel, enough⟩ : ∃ fuel, 2 * cs.length + 2 = fuel + 4 := ⟨2 * cs.length - 2, by omega⟩
    unfold Json.skipValue
    rw [enough, skipWithin_object starts quoted (by decide)]
    refine bind_eq_ok.2 ⟨(), _, skipKey_object (skipSpace_cons rfl _) reads colon, ?_⟩
    rw [skipWithin_null null]
    refine bind_eq_ok.2 ⟨(), _, unit, ?_⟩
    rw [skipWithin_close closes]
    exact skipWithin_done _ _

end AssetRegistry.Json
