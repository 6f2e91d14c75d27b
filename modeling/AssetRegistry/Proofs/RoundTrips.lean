import AssetRegistry.Proofs.Acceptance

namespace AssetRegistry.Binary64

theorem roundDiv_le (num den : Nat) : roundDiv num den ≤ num / den + 1 := by
  unfold roundDiv
  dsimp only
  split
  · omega
  · split <;> omega

theorem scaleRatio_neg_natCast (num den places : Nat) :
    scaleRatio num den (-(places : Int)) = (num, den <<< places) := by
  unfold scaleRatio
  split
  next none =>
    obtain rfl : places = 0 := by omega
    rfl
  next => simp

theorem highestBit_one {num : Nat} (something : num ≠ 0) : highestBit num 1 = num.log2 := by
  have least : ¬num < 1 <<< num.log2 := by
    rw [Nat.one_shiftLeft]
    exact Nat.not_lt.2 (Nat.log2_self_le something)
  unfold highestBit
  have guess : ((num.log2 : Int) - Nat.log2 1) = num.log2 := Int.sub_zero _
  rw [guess]
  dsimp only
  rw [scaleRatio_neg_natCast]
  exact if_neg least

/-- The bits of a number from the highest one on, of which there are 53. -/
theorem scaled_lt (num : Nat) :
    (scaleRatio num 1 (-((num.log2 : Int) - 52))).1 / (scaleRatio num 1 (-((num.log2 : Int) - 52))).2 < 2 ^ 53 := by
  have below : num < 2 ^ (num.log2 + 1) := Nat.lt_log2_self
  -- A number of few bits is moved up and one of many bits down, each until its highest bit is the 53rd.
  unfold scaleRatio
  split
  next few =>
    have places : (-((num.log2 : Int) - 52)).toNat = 52 - num.log2 := by omega
    have most : num.log2 + 1 + (52 - num.log2) = 53 := by omega
    rw [places, Nat.shiftLeft_eq, Nat.div_one, ← most, Nat.pow_add]
    exact Nat.mul_lt_mul_of_pos_right below (Nat.two_pow_pos _)
  next many =>
    have places : (- -((num.log2 : Int) - 52)).toNat = num.log2 - 52 := by omega
    have most : num.log2 + 1 = 53 + (num.log2 - 52) := by omega
    rw [places, Nat.one_shiftLeft]
    rw [Nat.div_lt_iff_lt_mul (Nat.two_pow_pos _), ← Nat.pow_add, ← most]
    exact below

/-- A whole number of 64 bits is far from infinite. -/
theorem roundRatio_lt {num : Nat} (few : num < 2 ^ 64) : roundRatio num 1 < infiniteMagnitude := by
  unfold roundRatio
  split
  · decide
  next something =>
    have bits : num.log2 < 64 := (Nat.log2_lt something).2 few
    have unit : max (highestBit num 1 - 52) (-1074) = (num.log2 : Int) - 52 := by
      rw [highestBit_one something]
      omega
    rw [unit]
    dsimp only
    have rounded := roundDiv_le (scaleRatio num 1 (-((num.log2 : Int) - 52))).1
      (scaleRatio num 1 (-((num.log2 : Int) - 52))).2
    have scaled := scaled_lt num
    -- The rounded bits carry into the exponent at most once, which leaves it far below the one of an infinity.
    have exponent : ((num.log2 : Int) - 52 + 1074).toNat ≤ 1085 := by omega
    refine Nat.lt_of_le_of_lt (Nat.min_le_left _ _) ?_
    unfold infiniteMagnitude exponentUnit
    omega

theorem magnitude_ofMagnitude (negative : Bool) {magnitude : Nat} (small : magnitude < signUnit) :
    (ofMagnitude negative magnitude).magnitude = magnitude := by
  have bits : (ofMagnitude negative magnitude).bits.toNat = magnitude + if negative then signUnit else 0 := by
    refine UInt64.toNat_ofNat_of_lt' ?_
    unfold UInt64.size
    unfold signUnit at *
    split <;> omega
  unfold Binary64.magnitude
  rw [bits]
  cases negative with
  | false => exact Nat.mod_eq_of_lt small
  | true => exact (Nat.add_mod_right magnitude signUnit).trans (Nat.mod_eq_of_lt small)

/-- Whole numbers of at most 64 bits become finite numbers. -/
theorem isFinite_ofInt {n : Int} (low : Int64.minValue.toInt ≤ n) (high : n < UInt64.size) :
    (ofInt n).isFinite = true := by
  have few : n.natAbs < 2 ^ 64 := by
    have low : -2 ^ 63 ≤ n := low
    have high : n < 2 ^ 64 := high
    omega
  have finite := roundRatio_lt few
  unfold ofInt isFinite
  rw [magnitude_ofMagnitude _ (Nat.lt_trans finite (by decide))]
  exact decide_eq_true finite

end AssetRegistry.Binary64

namespace AssetRegistry.Specs

/-- Only doubles can be no finite numbers. -/
def Kind.Finite : (k : Kind) → k.Value → Prop
  | .double, d => d.isFinite = true
  | _, _ => True

/-- What is written of a value means the value. -/
theorem Kind.means_toJson (k : Kind) (v : k.Value) : k.Means (k.toJson v) v := by
  cases k <;> constructor

theorem Kind.keep_toJson {k : Kind} {v : k.Value} (finite : k.Finite v) : (k.toJson v).keep = k.toJson v := by
  cases k with
  | double => exact if_pos finite
  | _ => rfl

theorem Kind.kept_toJson {k : Kind} {v : k.Value} (finite : k.Finite v) : (k.toJson v).Kept := by
  cases k with
  | text => exact .text v
  | int32 =>
    have low := Int32.minValue_le_toInt v
    have high := Int32.toInt_le v
    exact .whole (Int.le_trans (by decide) low) (Int.lt_of_le_of_lt high (by decide))
  | double => exact .double finite
  | flag => exact .flag v

/-- What is kept of a document means finite values only. -/
theorem Kind.Means.finite {k : Kind} {j : Json} {v : k.Value} (means : k.Means j v) (kept : j.Kept) : k.Finite v := by
  cases means with
  | double d =>
    cases kept with
    | double finite => exact finite
  | whole n =>
    cases kept with
    | whole low high => exact Binary64.isFinite_ofInt low high
  | _ => trivial

section
variable {cs : List Column} {vs : Values cs}

theorem Values.names_toEntries (vs : Values cs) : (toEntries cs vs).map (·.1) = cs.map (·.name) := by
  induction cs with
  | nil => rfl
  | cons c cs ih => exact congrArg (c.name :: ·) (ih vs.2)

theorem Values.keepEntries_toEntries (finite : Json.Tuple.EachOf Column.field cs (fun _ c => c.kind.Finite) vs) :
    Json.keepEntries (toEntries cs vs) = toEntries cs vs := by
  induction cs with
  | nil => rfl
  | cons c cs ih =>
    obtain ⟨v, vs⟩ := vs
    show (c.name, (c.kind.toJson v).keep) :: Json.keepEntries (toEntries cs vs) = _
    rw [Kind.keep_toJson finite.1, ih finite.2]
    rfl

theorem Values.kept_toEntries (finite : Json.Tuple.EachOf Column.field cs (fun _ c => c.kind.Finite) vs) :
    ∀ entry ∈ toEntries cs vs, entry.2.Kept := by
  induction cs with
  | nil => nofun
  | cons c cs ih => exact List.forall_mem_cons.2 ⟨Kind.kept_toJson finite.1, ih finite.2⟩

/-- Each column finds its value among the entries that were written. -/
theorem Values.eachOf_entries {entries : List (String × Json)} (among : toEntries cs vs ⊆ entries) :
    Json.Tuple.EachOf Column.field cs (fun _ c v => ∃ j, (c.name, j) ∈ entries ∧ c.kind.Means j v) vs := by
  induction cs with
  | nil => trivial
  | cons c cs ih =>
    obtain ⟨first, rest⟩ := List.cons_subset.1 among
    exact ⟨⟨_, first, c.kind.means_toJson vs.1⟩, ih rest⟩

end

/-- What a kept payload gives the columns is finite. -/
theorem Documents.finite {t : AssetType} {payload : Json} {values : Values (columns t)}
    (given : Documents t payload values) (kept : payload.Kept) :
    Json.Tuple.EachOf Column.field (columns t) (fun _ c => c.kind.Finite) values := by
  cases given with
  | object each =>
    cases kept with
    | object _ keptEntries =>
      refine each.imp fun _ c v => ?_
      rintro ⟨j, member, means⟩
      exact means.finite (keptEntries _ member)
  | array _ each =>
    cases kept with
    | array keptItems =>
      refine each.imp fun _ c v => ?_
      rintro ⟨j, here, means⟩
      exact means.finite (keptItems j (List.mem_of_getElem? here))

end AssetRegistry.Specs

namespace AssetRegistry.Attributes
open Specs

/-- Every double is a finite number. -/
def Finite (a : Attributes) : Prop :=
  Json.Tuple.EachOf Column.field (columns a.type) (fun _ c => c.kind.Finite) a.values

/-- What is kept of finite attributes is an object with an entry for every column. -/
theorem keep_toJson {a : Attributes} (finite : a.Finite) : ∃ entries, a.toJson.keep = .object entries ∧
    (Json.object entries).Kept ∧ entries.Perm (Values.toEntries (columns a.type) a.values) := by
  have names := Values.names_toEntries a.values
  obtain ⟨entries, kept, sorted⟩ := Json.perm_ofEntries (names ▸ distinct_columns a.type)
  refine ⟨entries, ?_, kept ▸ Json.kept_ofEntries (Values.kept_toEntries finite), sorted⟩
  unfold toJson Json.keep
  rw [Values.keepEntries_toEntries finite, kept]

/-- Whatever the order of its entries, the object reads as the attributes that were written. -/
theorem check_toJson {a : Attributes} {entries : List (String × Json)} (kept : (Json.object entries).Kept)
    (sorted : entries.Perm (Values.toEntries (columns a.type) a.values)) : check a.type (.object entries) = .ok a := by
  have given : Documents a.type (.object entries) a.values := .object (Values.eachOf_entries sorted.symm.subset)
  exact mapError_eq_ok_iff.2 ((ofPayload_eq_ok_iff kept.keysOnce).2 ⟨a.values, rfl, given⟩)

/-- Attributes whose doubles are finite are written as an object that has the columns of their type for its keys, and
are read from it. The attributes of a payload are such, so they are read again from what is written of them. -/
theorem toJson_reads_back :
    (∀ a : Attributes, a.Finite → ∃ entries, a.toJson.keep = .object entries ∧ (Json.object entries).Kept ∧
      (entries.map (·.1)).Perm ((columns a.type).map (·.name)) ∧ check a.type (.object entries) = .ok a) ∧
    ∀ (t : AssetType) (payload : Json) (a : Attributes), payload.Kept → check t payload = .ok a →
      a.type = t ∧ check t a.toJson.keep = .ok a := by
  have back (a : Attributes) (finite : a.Finite) : ∃ entries, a.toJson.keep = .object entries ∧
      (Json.object entries).Kept ∧ (entries.map (·.1)).Perm ((columns a.type).map (·.name)) ∧
      check a.type (.object entries) = .ok a := by
    obtain ⟨entries, written, kept, sorted⟩ := keep_toJson finite
    exact ⟨entries, written, kept, Values.names_toEntries a.values ▸ sorted.map (·.1), check_toJson kept sorted⟩
  refine ⟨back, fun t payload a kept accepted => ?_⟩
  obtain ⟨values, rfl, given⟩ := (ofPayload_eq_ok_iff kept.keysOnce).1 (ok_of_mapError accepted)
  obtain ⟨entries, written, -, -, again⟩ := back ⟨t, values⟩ (given.finite kept)
  exact ⟨rfl, written ▸ again⟩

/-- A laptop by its places, with a whole number for the size of the screen. -/
def listedLaptop : Json := .array [.text "i7", .whole 32, .whole 512, .text "ssd", .whole 14, .flag true]

/-- A laptop with a value in every column. -/
def laptop : Attributes :=
  ⟨.laptop, ("i7", (32 : Int32), (512 : Int32), "ssd", Binary64.ofInt 14, true, ())⟩

/-- The laptop reads back from its object, and from an array. -/
theorem laptop_reads_back : laptop.Finite ∧ (∃ entries, laptop.toJson.keep = .object entries ∧
      (entries.map (·.1)).Perm ((columns .laptop).map (·.name)) ∧ check .laptop (.object entries) = .ok laptop) ∧
    listedLaptop.Kept ∧ check .laptop listedLaptop = .ok laptop ∧ laptop.toJson.keep ≠ listedLaptop ∧
    check .laptop laptop.toJson.keep = .ok laptop := by
  have finite : laptop.Finite :=
    ⟨trivial, trivial, trivial, trivial, Binary64.isFinite_ofInt (by decide) (by decide), trivial, trivial⟩
  have kept : listedLaptop.Kept := by
    refine .array ?_
    simp only [List.forall_mem_cons]
    exact ⟨.text _, .whole (by decide) (by decide), .whole (by decide) (by decide), .text _,
      .whole (by decide) (by decide), .flag true, nofun⟩
  have accepted : check .laptop listedLaptop = .ok laptop := rfl
  obtain ⟨entries, written, -, keys, reads⟩ := toJson_reads_back.1 laptop finite
  exact ⟨finite, ⟨entries, written, keys, reads⟩, kept, accepted, nofun,
    (toJson_reads_back.2 .laptop listedLaptop laptop kept accepted).2⟩

end AssetRegistry.Attributes
