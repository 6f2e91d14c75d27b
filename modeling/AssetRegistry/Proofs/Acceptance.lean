import AssetRegistry.Proofs.Kept
import AssetRegistry.Proofs.Payloads
import AssetRegistry.Specs.Exchange

namespace AssetRegistry.Json

theorem Tuple.Each.of_mem {fields : List Field} {wanted : Nat → (f : Field) → f.Value → Prop} {vs : Tuple fields}
    (each : Each fields wanted vs) {f : Field} (member : f ∈ fields) : ∃ i v, wanted i f v := by
  induction fields generalizing wanted with
  | nil => cases member
  | cons first fs ih =>
    rcases List.mem_cons.1 member with rfl | later
    · exact ⟨0, vs.1, each.1⟩
    · obtain ⟨i, v, holds⟩ := ih each.2 later
      exact ⟨i + 1, v, holds⟩

theorem Tuple.Each.unique {fields : List Field} {wanted : Nat → (f : Field) → f.Value → Prop} {vs others : Tuple fields}
    (each : Each fields wanted vs) (every : Each fields wanted others)
    (single : ∀ i, ∀ f ∈ fields, ∀ v other, wanted i f v → wanted i f other → v = other) : vs = others := by
  induction fields generalizing wanted with
  | nil => rfl
  | cons first fs ih =>
    have head := single 0 first List.mem_cons_self vs.1 others.1 each.1 every.1
    have tail := ih each.2 every.2 fun i f member => single (i + 1) f (List.mem_cons_of_mem _ member)
    exact Prod.ext head tail

section
variable {ι : Type} {field : ι → Field} {xs : List ι}

/-- In a record with a field for each of some things, every value is as told of the thing and its place. -/
def Tuple.EachOf (field : ι → Field) :
    (xs : List ι) → (Nat → (x : ι) → (field x).Value → Prop) → Tuple (xs.map field) → Prop
  | [], _, _ => True
  | x :: xs, told, (v, vs) => told 0 x v ∧ EachOf field xs (fun i => told (i + 1)) vs

theorem Tuple.each_map {wanted : Nat → (f : Field) → f.Value → Prop} {vs : Tuple (xs.map field)} :
    Each (xs.map field) wanted vs ↔ EachOf field xs (fun i x v => wanted i (field x) v) vs := by
  induction xs generalizing wanted with
  | nil => exact Iff.rfl
  | cons x xs ih => exact and_congr_right fun _ => ih

theorem Tuple.EachOf.imp {told also : Nat → (x : ι) → (field x).Value → Prop} {vs : Tuple (xs.map field)}
    (each : EachOf field xs told vs) (weaker : ∀ i x v, told i x v → also i x v) : EachOf field xs also vs := by
  induction xs generalizing told also with
  | nil => trivial
  | cons x xs ih => exact ⟨weaker 0 x vs.1 each.1, ih each.2 fun i => weaker (i + 1)⟩

theorem Tuple.eachOf_congr {told also : Nat → (x : ι) → (field x).Value → Prop} {vs : Tuple (xs.map field)}
    (same : ∀ i x v, told i x v ↔ also i x v) : EachOf field xs told vs ↔ EachOf field xs also vs :=
  ⟨fun each => each.imp fun i x v => (same i x v).1, fun each => each.imp fun i x v => (same i x v).2⟩

theorem Tuple.EachOf.of_getElem? {told : Nat → (x : ι) → (field x).Value → Prop} {vs : Tuple (xs.map field)}
    (each : EachOf field xs told vs) {i : Nat} {x : ι} (here : xs[i]? = some x) : ∃ v, told i x v := by
  induction xs generalizing told i with
  | nil => cases here
  | cons first xs ih =>
    cases i with
    | zero =>
      obtain rfl := Option.some.inj here
      exact ⟨vs.1, each.1⟩
    | succ i => exact ih each.2 here

end

/-- The field has the same value wherever it is not given one. -/
def Field.Even (f : Field) : Prop := f.whenAbsent = f.whenShort

theorem Field.Takes.unique {f : Field} (even : f.Even) {given : Option Json} {v other : f.Value}
    (takes : f.Takes given v) (also : f.Takes given other) : v = other := by
  unfold Takes at takes also
  cases given with
  | some j => exact Except.ok.inj (takes.symm.trans also)
  | none =>
    unfold Even at even
    rw [even, or_self] at takes also
    exact Option.some.inj (takes.symm.trans also)

/-- A field objects to the value under its name. -/
def Record.Objects (fields : List Field) (entry : String × Json) (why : Mismatch) : Prop :=
  ∃ f ∈ fields, f.name = entry.1 ∧ f.decoder.ofJson entry.2 = .error why

namespace Slots
open Record (Objects)

variable {fields : List Field} {slots filled : Slots fields} {key : String} {value : Json} {why : Mismatch}
  {entries : List (String × Json)}

/-- No field of this name has been read. -/
def Unread (key : String) : (fields : List Field) → Slots fields → Prop
  | [], _ => True
  | f :: fs, (slot, slots) => (f.name = key → slot = none) ∧ Unread key fs slots

theorem unread_empty (key : String) (fields : List Field) : Unread key fields (empty fields) := by
  induction fields with
  | nil => trivial
  | cons f fs ih => exact ⟨fun _ => rfl, ih⟩

/-- An entry whose slot is still empty fails only by an objection of its own. -/
theorem objects_of_fill (unread : Unread key fields slots) (fails : fill fields slots key value = .error why) :
    Objects fields (key, value) why := by
  induction fields with
  | nil => cases fails
  | cons f fs ih =>
    obtain ⟨slot, slots⟩ := slots
    rw [fill] at fails
    split at fails
    next same =>
      obtain rfl := unread.1 same.symm
      rw [if_neg (by simp)] at fails
      exact ⟨f, List.mem_cons_self, same.symm, error_of_map fails⟩
    next =>
      obtain ⟨g, member, objects⟩ := ih unread.2 (error_of_map fails)
      exact ⟨g, List.mem_cons_of_mem _ member, objects⟩

theorem fits_of_fill (distinct : (fields.map (·.name)).Nodup) (fills : fill fields slots key value = .ok filled) :
    (∀ why, ¬Objects fields (key, value) why) ∧
      ∀ other, other ≠ key → Unread other fields slots → Unread other fields filled := by
  induction fields with
  | nil => exact ⟨fun _ opposed => List.not_mem_nil opposed.choose_spec.1, fun _ _ _ => trivial⟩
  | cons f fs ih =>
    obtain ⟨slot, slots⟩ := slots
    obtain ⟨unlike, distinct⟩ := List.nodup_cons.1 distinct
    rw [fill] at fills
    split at fills
    next same =>
      split at fills
      · cases fills
      obtain ⟨v, reads, rfl⟩ := ok_of_map fills
      refine ⟨?_, fun other differs unread => ⟨fun named => absurd (named.symm.trans same.symm) differs, unread.2⟩⟩
      rintro why ⟨g, member, named, fails⟩
      rcases List.mem_cons.1 member with rfl | later
      · rw [reads] at fails; cases fails
      · exact unlike (List.mem_map.2 ⟨g, later, named.trans same⟩)
    next differs =>
      obtain ⟨rest, fillsRest, rfl⟩ := ok_of_map fills
      obtain ⟨unopposed, untouched⟩ := ih distinct fillsRest
      refine ⟨?_, fun other apart unread => ⟨unread.1, untouched other apart unread.2⟩⟩
      rintro why ⟨g, member, named, fails⟩
      rcases List.mem_cons.1 member with rfl | later
      · exact differs named.symm
      · exact unopposed why ⟨g, later, named, fails⟩

/-- Entries are taken up to the first one that a field objects to. -/
theorem foldlM_error (distinct : (fields.map (·.name)).Nodup) (single : (entries.map (·.1)).Nodup)
    (unread : ∀ entry ∈ entries, Unread entry.1 fields slots)
    (fails : entries.foldlM (fun slots entry => fill fields slots entry.1 entry.2) slots = .error why) :
    ∃ before entry after, entries = before ++ entry :: after ∧
      (∀ earlier ∈ before, ∀ why, ¬Objects fields earlier why) ∧ Objects fields entry why := by
  -- The keys that are still to come have not been read, so no entry fails because its slot is taken.
  induction entries generalizing slots with
  | nil => cases fails
  | cons entry rest ih =>
    rw [List.foldlM_cons] at fails
    cases first : fill fields slots entry.1 entry.2 with
    | error other =>
      rw [first] at fails
      have same : other = why := Except.error.inj fails
      exact ⟨[], entry, rest, rfl, nofun, same ▸ objects_of_fill (unread entry List.mem_cons_self) first⟩
    | ok filled =>
      rw [first] at fails
      obtain ⟨unlike, single⟩ := List.nodup_cons.1 single
      obtain ⟨fits, untouched⟩ := fits_of_fill distinct first
      have stillUnread : ∀ later ∈ rest, Unread later.1 fields filled := fun later member =>
        untouched later.1 (fun same => unlike (List.mem_map.2 ⟨later, member, same⟩))
          (unread later (List.mem_cons_of_mem _ member))
      obtain ⟨before, opposed, after, rfl, unopposed, objects⟩ := ih single stillUnread fails
      exact ⟨entry :: before, opposed, after, rfl, List.forall_mem_cons.2 ⟨fits, unopposed⟩, objects⟩

/-- Where all entries are read, none of them has an objection. -/
theorem fits_of_foldlM (distinct : (fields.map (·.name)).Nodup)
    (fills : entries.foldlM (fun slots entry => fill fields slots entry.1 entry.2) slots = .ok filled) :
    ∀ entry ∈ entries, ∀ why, ¬Objects fields entry why := by
  induction entries generalizing slots with
  | nil => nofun
  | cons entry rest ih =>
    rw [List.foldlM_cons] at fills
    obtain ⟨middle, first, fills⟩ := ok_of_bind fills
    exact List.forall_mem_cons.2 ⟨(fits_of_fill distinct first).1, ih fills⟩

/-- Of the fields without a value the first one is missing. -/
theorem finish_error (filled : Filled entries fields (empty fields) slots) (fails : finish fields slots = .error why) :
    ∃ before f after, fields = before ++ f :: after ∧ why = .missingField f.name ∧
      (entries.lookup f.name = none ∧ f.whenAbsent = none) ∧
      ∀ earlier ∈ before, entries.lookup earlier.name ≠ none ∨ earlier.whenAbsent ≠ none := by
  induction fields with
  | nil => cases fails
  | cons f fs ih =>
    obtain ⟨slot, slots⟩ := slots
    obtain ⟨first, rest⟩ := filled
    rw [finish] at fails
    split at fails
    next v found =>
      have given : entries.lookup f.name ≠ none ∨ f.whenAbsent ≠ none := by
        cases first with
        | kept => exact Or.inr (by rw [show f.whenAbsent = some v from found]; simp)
        | read here => exact Or.inl (by rw [here]; simp)
      obtain ⟨before, g, after, rfl, missing, absent, earlier⟩ := ih rest (error_of_map fails)
      exact ⟨f :: before, g, after, rfl, missing, absent, List.forall_mem_cons.2 ⟨given, earlier⟩⟩
    next nothing =>
      refine ⟨[], f, fs, rfl, (Except.error.inj fails).symm, ?_, fun _ member => absurd member List.not_mem_nil⟩
      cases first with
      | kept absent => exact ⟨absent, nothing⟩
      | read => cases nothing

end Slots

/-- What is reported of entries that are no record: the first value that a field objects to, or else the first field
that has no value. -/
inductive Record.Refuses (fields : List Field) (entries : List (String × Json)) : Mismatch → Prop
  | objected {before after : List (String × Json)} {entry : String × Json} {why : Mismatch} :
      entries = before ++ entry :: after → (∀ earlier ∈ before, ∀ why, ¬Objects fields earlier why) →
      Objects fields entry why → Refuses fields entries why
  | missing {before after : List Field} {f : Field} : (∀ entry ∈ entries, ∀ why, ¬Objects fields entry why) →
      fields = before ++ f :: after → entries.lookup f.name = none → f.whenAbsent = none →
      (∀ earlier ∈ before, entries.lookup earlier.name ≠ none ∨ earlier.whenAbsent ≠ none) →
      Refuses fields entries (.missingField f.name)

/-- What is reported is the first objection, or else the first field that is missing. -/
theorem Record.refuses_of_error {r : Record} {entries : List (String × Json)} {why : Mismatch}
    (distinct : (r.fields.map (·.name)).Nodup) (single : (entries.map (·.1)).Nodup)
    (fails : r.ofEntries entries = .error why) : Refuses r.fields entries why := by
  unfold ofEntries at fails
  cases fills : entries.foldlM (fun slots entry => Slots.fill r.fields slots entry.1 entry.2) (Slots.empty r.fields) with
  | error other =>
    rw [fills] at fails
    obtain rfl := Except.error.inj fails
    obtain ⟨before, entry, after, parts, unopposed, objects⟩ :=
      Slots.foldlM_error distinct single (fun entry _ => Slots.unread_empty entry.1 r.fields) fills
    exact .objected parts unopposed objects
  | ok slots =>
    rw [fills] at fails
    obtain ⟨before, f, after, parts, rfl, ⟨absent, nothing⟩, earlier⟩ :=
      Slots.finish_error (Slots.filled_of_entries distinct fills) fails
    exact .missing (Slots.fits_of_foldlM distinct fills) parts absent nothing earlier

theorem lookup_of_mem {entries : List (String × Json)} (single : (entries.map (·.1)).Nodup) {entry : String × Json}
    (member : entry ∈ entries) : entries.lookup entry.1 = some entry.2 := by
  induction entries with
  | nil => cases member
  | cons first rest ih =>
    obtain ⟨unlike, single⟩ := List.nodup_cons.1 single
    rcases List.mem_cons.1 member with rfl | later
    · rw [List.lookup_cons, beq_self_eq_true]
    · have other : entry.1 ≠ first.1 := fun same => unlike (List.mem_map.2 ⟨entry, later, same⟩)
      rw [List.lookup_cons, beq_eq_false_iff_ne.2 other]
      exact ih single later

theorem lookup_eq_some_iff_mem {entries : List (String × Json)} (single : (entries.map (·.1)).Nodup) {name : String}
    {j : Json} : entries.lookup name = some j ↔ (name, j) ∈ entries := by
  constructor
  · intro found
    obtain ⟨before, after, rfl, -⟩ := List.lookup_eq_some_iff.1 found
    simp
  · exact fun member => lookup_of_mem single member

theorem Record.Refuses.not_each {fields : List Field} {entries : List (String × Json)} {why : Mismatch}
    (refuses : Refuses fields entries why) (single : (entries.map (·.1)).Nodup) (even : ∀ f ∈ fields, f.Even)
    (vs : Tuple fields) : ¬Tuple.Each fields (fun _ f => f.Takes (entries.lookup f.name)) vs := by
  intro each
  cases refuses with
  | @objected before after entry _ parts unopposed objects =>
    obtain ⟨f, member, named, fails⟩ := objects
    obtain ⟨-, v, takes⟩ := each.of_mem member
    have among : entry ∈ entries := by simp [parts]
    rw [named, lookup_of_mem single among] at takes
    cases fails.symm.trans takes
  | @missing before after f _ parts absent nothing _ =>
    have member : f ∈ fields := by simp [parts]
    obtain ⟨-, v, takes⟩ := each.of_mem member
    rw [absent] at takes
    have own : f.whenAbsent = some v ∨ f.whenShort = some v := takes
    rw [← even f member, or_self, nothing] at own
    cases own

theorem Record.left_of_ofItems {wanted : String} {fields : List Field} {index left : Nat} {items : List Json}
    {vs : Tuple fields} (reads : ofItems wanted fields index items = .ok (vs, left)) :
    left = items.length - fields.length := by
  induction fields generalizing index items left with
  | nil => exact (Prod.mk.inj (Except.ok.inj reads)).2.symm
  | cons f fs ih =>
    unfold ofItems at reads
    cases items with
    | nil =>
      dsimp only at reads
      split at reads
      next =>
        obtain ⟨⟨rest, _⟩, readsRest, same⟩ := ok_of_map reads
        obtain ⟨rfl, rfl⟩ := Prod.mk.inj same
        exact (ih readsRest).trans (by simp)
      next => cases reads
    | cons item items =>
      dsimp only at reads
      split at reads
      next => cases reads
      next =>
        obtain ⟨⟨rest, _⟩, readsRest, same⟩ := ok_of_map reads
        obtain ⟨rfl, rfl⟩ := Prod.mk.inj same
        exact (ih readsRest).trans (by simp)

/-- An array is read item by item, each for the field at its place. -/
theorem Record.ofItems_of_takes {fields : List Field} (wanted : String) (index : Nat) (items : List Json)
    {vs : Tuple fields} (even : ∀ f ∈ fields, f.Even) (each : Tuple.Each fields (fun i f => f.Takes items[i]?) vs) :
    ofItems wanted fields index items = .ok (vs, items.length - fields.length) := by
  induction fields generalizing index items with
  | nil => rfl
  | cons f fs ih =>
    obtain ⟨v, vs⟩ := vs
    obtain ⟨first, rest⟩ := each
    have evenRest : ∀ f ∈ fs, f.Even := fun g member => even g (List.mem_cons_of_mem _ member)
    cases items with
    | nil =>
      have short : f.whenShort = some v := by
        have absent : f.whenAbsent = some v ∨ f.whenShort = some v := first
        rwa [even f List.mem_cons_self, or_self] at absent
      have later := ih (index + 1) [] evenRest (by simpa using rest)
      unfold ofItems
      rw [short]
      dsimp only
      rw [later]
      show Except.ok ((v, vs), 0 - fs.length) = .ok ((v, vs), 0 - (fs.length + 1))
      rw [Nat.zero_sub, Nat.zero_sub]
    | cons item items =>
      have reads : f.decoder.ofJson item = .ok v := first
      have later := ih (index + 1) items evenRest (by simpa using rest)
      unfold ofItems
      rw [reads]
      dsimp only
      rw [later]
      show Except.ok ((v, vs), items.length - fs.length) = .ok ((v, vs), items.length + 1 - (fs.length + 1))
      rw [Nat.add_sub_add_right]

/-- An object, or an array of no more items than there are fields. -/
def Holds (fields : Nat) : Json → Prop
  | .object _ => True
  | .array items => items.length ≤ fields
  | _ => False

/-- A record is read exactly of a document that gives each field what it wants and nothing in excess. -/
theorem Record.ofJson_eq_ok_iff {r : Record} {document : Json} (distinct : (r.fields.map (·.name)).Nodup)
    (even : ∀ f ∈ r.fields, f.Even)
    (single : document.KeysOnce) (vs : Tuple r.fields) :
    r.ofJson document = .ok vs ↔
      document.Holds r.fields.length ∧ Tuple.Each r.fields (fun i f => f.Takes (document.given? f.name i)) vs := by
  constructor
  · intro reads
    refine ⟨?_, ofJson_takes distinct reads⟩
    unfold ofJson at reads
    split at reads
    · trivial
    next items =>
      obtain ⟨⟨vs', left⟩, read, rest⟩ := ok_of_bind (x := ofItems _ _ _ _) reads
      dsimp only at rest
      split at rest
      next none =>
        have left := left_of_ofItems read
        show items.length ≤ r.fields.length
        omega
      next => cases rest
    next => cases reads
  · rintro ⟨holds, each⟩
    cases document with
    | object entries =>
      show r.ofEntries entries = .ok vs
      cases result : r.ofEntries entries with
      | ok others =>
        have reads : r.ofJson (.object entries) = .ok others := result
        have every := ofJson_takes distinct reads
        rw [every.unique each fun i f member v other takes also => takes.unique (even f member) also]
      | error why =>
        exact absurd each ((refuses_of_error distinct single result).not_each single even vs)
    | array items =>
      have read := ofItems_of_takes r.arrayNoun 0 items even each
      have none : items.length - r.fields.length = 0 := Nat.sub_eq_zero_of_le holds
      unfold ofJson
      dsimp only
      rw [read, none]
      rfl
    | _ => exact holds.elim

/-- The same of a record with a field for each of some things. -/
theorem Record.ofJson_eq_ok_iff_eachOf {ι : Type} (name : String) (field : ι → Field) {xs : List ι} {document : Json}
    (distinct : (xs.map fun x => (field x).name).Nodup) (even : ∀ x, (field x).Even)
    (single : document.KeysOnce) (vs : Tuple (xs.map field)) :
    (Record.mk name (xs.map field)).ofJson document = .ok vs ↔ document.Holds xs.length ∧
      Tuple.EachOf field xs (fun i x => (field x).Takes (document.given? (field x).name i)) vs := by
  have distinctFields : ((xs.map field).map (·.name)).Nodup := by simpa [Function.comp_def] using distinct
  have evenFields : ∀ f ∈ xs.map field, f.Even := by
    intro f member
    obtain ⟨x, -, rfl⟩ := List.mem_map.1 member
    exact even x
  have reads := ofJson_eq_ok_iff (r := ⟨name, xs.map field⟩) distinctFields evenFields single vs
  rwa [List.length_map, Tuple.each_map] at reads

end AssetRegistry.Json

namespace AssetRegistry.Specs
open Json (Mismatch Found)

/-- A document is a value of this kind, and which one. Any number is a double, the nearest one. -/
inductive Kind.Means : (k : Kind) → Json → k.Value → Prop
  | text (s : String) : Means .text (.text s) s
  | int32 (n : Int32) : Means .int32 (.whole n.toInt) n
  | double (d : Binary64) : Means .double (.double d) d
  | whole (n : Int) : Means .double (.whole n) (.ofInt n)
  | flag (b : Bool) : Means .flag (.flag b) b

/-- The value means nothing of the kind. -/
def Kind.IllTyped (k : Kind) (j : Json) : Prop := ∀ v, ¬k.Means j v

/-- How messages name what is expected. -/
def Kind.noun : Kind → String
  | .text => "a string"
  | .int32 => "i32"
  | .double => "f64"
  | .flag => "a boolean"

/-- What is reported of a document that is no value of this kind. A whole number that is too long is no wrong type. -/
def Kind.objection : Kind → Json → Mismatch
  | .int32, .whole n => .wrongValue (.whole n) Kind.int32.noun
  | k, j => .wrongType j.found k.noun

theorem ofJson_int32_whole (n : Int) : Json.Decoder.int32.ofJson (.whole n) =
    if Int32.minValue.toInt ≤ n && n ≤ Int32.maxValue.toInt then .ok (Int32.ofInt n)
    else .error (.wrongValue (.whole n) "i32") := rfl

theorem Kind.means_of_decoder {k : Kind} {j : Json} {v : k.Value} (reads : k.decoder.ofJson j = .ok v) :
    k.Means j v := by
  cases k with
  | int32 =>
    cases j with
    | whole n =>
      change Json.Decoder.int32.ofJson (.whole n) = .ok v at reads
      rw [ofJson_int32_whole] at reads
      split at reads
      next within =>
        rw [Bool.and_eq_true, decide_eq_true_eq, decide_eq_true_eq, Int32.toInt_minValue, Int32.toInt_maxValue]
          at within
        have same : (Int32.ofInt n).toInt = n := Int32.toInt_ofInt_of_le within.1 (by omega)
        have means := Means.int32 (Int32.ofInt n)
        rwa [same, Except.ok.inj reads] at means
      next => cases reads
    | _ => cases reads
  | _ => cases j <;> cases reads <;> constructor

theorem Kind.Means.decoder {k : Kind} {j : Json} {v : k.Value} (means : k.Means j v) : k.decoder.ofJson j = .ok v := by
  cases means with
  | int32 n =>
    show Json.Decoder.int32.ofJson (.whole n.toInt) = .ok n
    have within : (Int32.minValue.toInt ≤ n.toInt && n.toInt ≤ Int32.maxValue.toInt) = true :=
      Bool.and_eq_true_iff.2 ⟨decide_eq_true n.minValue_le_toInt, decide_eq_true n.toInt_le⟩
    rw [ofJson_int32_whole, if_pos within, Int32.ofInt_toInt]
  | _ => rfl

theorem Kind.objection_of_decoder {k : Kind} {j : Json} {why : Mismatch} (fails : k.decoder.ofJson j = .error why) :
    k.IllTyped j ∧ why = k.objection j := by
  refine ⟨fun v means => ?_, ?_⟩
  · rw [means.decoder] at fails
    cases fails
  · cases k with
    | int32 =>
      cases j with
      | whole n =>
        change Json.Decoder.int32.ofJson (.whole n) = .error why at fails
        rw [ofJson_int32_whole] at fails
        split at fails
        next => cases fails
        next => exact (Except.error.inj fails).symm
      | _ => exact (Except.error.inj fails).symm
    | _ => cases j <;> cases fails <;> rfl

theorem Kind.illTyped_iff {k : Kind} {j : Json} : k.IllTyped j ↔ k.decoder.ofJson j = .error (k.objection j) := by
  constructor
  · intro illTyped
    cases reads : k.decoder.ofJson j with
    | ok v => exact absurd (means_of_decoder reads) (illTyped v)
    | error why => rw [(objection_of_decoder reads).2]
  · exact fun fails => (objection_of_decoder fails).1

/-- The payload gives every column of the type a value of its kind, and these are the values: an object gives them under
the columns' names, whatever else it holds, and an array in the columns' order and no more. -/
inductive Documents (t : AssetType) : Json → Values (columns t) → Prop
  | object {entries : List (String × Json)} {values : Values (columns t)} :
      Json.Tuple.EachOf Column.field (columns t) (fun _ c v => ∃ j, (c.name, j) ∈ entries ∧ c.kind.Means j v) values →
      Documents t (.object entries) values
  | array {items : List Json} {values : Values (columns t)} : items.length = (columns t).length →
      Json.Tuple.EachOf Column.field (columns t) (fun i c v => ∃ j, items[i]? = some j ∧ c.kind.Means j v) values →
      Documents t (.array items) values

/-- What is reported of the entries of an object: of the entries under the name of a column whose value is of another
kind, the one with the least key; or, where there is none, the first column without an entry. -/
inductive Blamed (t : AssetType) (entries : List (String × Json)) : Mismatch → Prop
  | illTyped {c : Column} {j : Json} : c ∈ columns t → (c.name, j) ∈ entries → c.kind.IllTyped j →
      (∀ other ∈ columns t, ∀ k, (other.name, k) ∈ entries → other.kind.IllTyped k →
        Text.utf8 c.name ≤ Text.utf8 other.name) →
      Blamed t entries (c.kind.objection j)
  | missing {before after : List Column} {c : Column} :
      (∀ other ∈ columns t, ∀ k, (other.name, k) ∈ entries → ¬other.kind.IllTyped k) →
      columns t = before ++ c :: after → (∀ j, (c.name, j) ∉ entries) →
      (∀ earlier ∈ before, ∃ j, (earlier.name, j) ∈ entries) →
      Blamed t entries (.missingField c.name)

variable {t : AssetType} {payload : Json} {entries : List (String × Json)}

theorem distinct_fields (t : AssetType) : ((Attributes.record t).fields.map (·.name)).Nodup := by
  simpa [Attributes.record, Function.comp_def, Column.field, Json.Field.required] using distinct_columns t

/-- A column has no value of its own, so one has to be given. -/
theorem Column.field_takes_iff {c : Column} {given : Option Json} {v : c.kind.Value} :
    c.field.Takes given v ↔ ∃ j, given = some j ∧ c.kind.Means j v := by
  cases given with
  | none => exact ⟨by rintro (⟨⟨⟩⟩ | ⟨⟨⟩⟩), by rintro ⟨_, ⟨⟩, -⟩⟩
  | some j =>
    constructor
    · exact fun reads => ⟨j, rfl, Kind.means_of_decoder reads⟩
    · rintro ⟨_, ⟨⟩, means⟩
      exact means.decoder

/-- Attributes are read exactly of a payload that gives each column a value of its kind and nothing in excess. -/
theorem values_iff (single : payload.KeysOnce)
    {values : Values (columns t)} : (Attributes.record t).ofJson payload = .ok values ↔
      payload.Holds (columns t).length ∧ Json.Tuple.EachOf Column.field (columns t)
        (fun i c v => ∃ j, payload.given? c.name i = some j ∧ c.kind.Means j v) values := by
  have takes := Json.Record.ofJson_eq_ok_iff_eachOf (recordName t) Column.field (distinct_columns t)
    (fun _ => rfl) single values
  exact takes.trans (and_congr_right' (Json.Tuple.eachOf_congr fun _ _ _ => Column.field_takes_iff))

/-- A payload is read exactly if it documents values. -/
theorem documents_iff (single : payload.KeysOnce)
    {values : Values (columns t)} : (Attributes.record t).ofJson payload = .ok values ↔ Documents t payload values := by
  rw [values_iff single]
  cases payload with
  | object entries =>
    have named : Json.Tuple.EachOf Column.field (columns t)
          (fun _ c v => ∃ j, entries.lookup c.name = some j ∧ c.kind.Means j v) values ↔
        Json.Tuple.EachOf Column.field (columns t)
          (fun _ c v => ∃ j, (c.name, j) ∈ entries ∧ c.kind.Means j v) values :=
      Json.Tuple.eachOf_congr fun _ _ _ =>
        exists_congr fun _ => and_congr_left' (Json.lookup_eq_some_iff_mem single)
    constructor
    · rintro ⟨-, given⟩
      exact .object (named.1 given)
    · rintro ⟨given⟩
      exact ⟨trivial, named.2 given⟩
  | array items =>
    constructor
    · rintro ⟨most, given⟩
      refine .array (Nat.le_antisymm most (Nat.not_lt.1 fun short => ?_)) given
      obtain ⟨-, j, here, -⟩ := given.of_getElem? (List.getElem?_eq_getElem short)
      have beyond : items[items.length]? = none := List.getElem?_eq_none (Nat.le_refl _)
      cases beyond.symm.trans here
    · rintro (_ | ⟨exact, given⟩)
      exact ⟨exact.le, given⟩
  | _ => exact ⟨fun given => given.1.elim, nofun⟩

/-- Of an object that is refused, the entry or the column is reported that is to blame. -/
theorem blamed_of_refuses {why : Mismatch}
    (ascending : entries.Pairwise fun first later => Text.utf8 first.1 < Text.utf8 later.1)
    (refuses : Json.Record.Refuses (Attributes.record t).fields entries why) : Blamed t entries why := by
  have objects {c : Column} (member : c ∈ columns t) {j : Json} (illTyped : c.kind.IllTyped j) :
      Json.Record.Objects (Attributes.record t).fields (c.name, j) (c.kind.objection j) :=
    ⟨c.field, List.mem_map_of_mem member, rfl, Kind.illTyped_iff.1 illTyped⟩
  cases refuses with
  | @objected before after entry _ parts unopposed opposed =>
    obtain ⟨f, member, named, fails⟩ := opposed
    obtain ⟨c, isColumn, rfl⟩ := List.mem_map.1 member
    obtain ⟨illTyped, rfl⟩ := Kind.objection_of_decoder fails
    obtain ⟨key, j⟩ := entry
    obtain rfl : c.name = key := named
    refine .illTyped isColumn (by simp [parts]) illTyped fun other among k there otherIllTyped => ?_
    -- The entries stand in the order of their keys, so the first one that a field objects to has the least key.
    rw [parts] at there ascending
    rcases List.mem_append.1 there with early | late
    · exact absurd (objects among otherIllTyped) (unopposed _ early _)
    · rcases List.mem_cons.1 late with same | later
      · rw [(Prod.mk.inj same).1]
        exact List.le_refl _
      · obtain ⟨-, behind, -⟩ := List.pairwise_append.1 ascending
        exact List.le_of_lt ((List.pairwise_cons.1 behind).1 _ later)
  | @missing before after f unopposed parts absent nothing earlier =>
    obtain ⟨first, rest, columns, rfl, more⟩ := List.map_eq_append_iff.1 parts
    obtain ⟨c, last, rfl, rfl, -⟩ := List.map_eq_cons_iff.1 more
    refine .missing (fun other among k there illTyped => unopposed _ there _ (objects among illTyped)) columns
      (fun j there => ?_) fun other among => ?_
    · have unlike := List.lookup_eq_none_iff.1 absent _ there
      exact absurd rfl (bne_iff_ne.1 unlike)
    · have given := (earlier _ (List.mem_map_of_mem among)).resolve_right fun own => own rfl
      obtain ⟨j, here⟩ := Option.ne_none_iff_exists'.1 given
      obtain ⟨start, rest, parts, -⟩ := List.lookup_eq_some_iff.1 here
      exact ⟨j, by rw [parts]; exact List.mem_append_right _ List.mem_cons_self⟩

end AssetRegistry.Specs

namespace AssetRegistry.Attributes
open Specs

theorem ofPayload_eq_ok_iff {t : AssetType} {payload : Json}
    (single : payload.KeysOnce) {a : Attributes} :
    ofPayload t payload = .ok a ↔ ∃ values, a = ⟨t, values⟩ ∧ Documents t payload values := by
  constructor
  · intro reads
    obtain ⟨values, read, rfl⟩ := ok_of_map reads
    exact ⟨values, rfl, (documents_iff single).1 read⟩
  · rintro ⟨values, rfl, given⟩
    unfold ofPayload
    rw [(documents_iff single).2 given]
    rfl

/-- A payload is accepted exactly if it gives every column of the type a value of its kind, and then these are the
attributes. Of any other payload it is reported that it is invalid for the type, and of an object what is to blame. -/
theorem payloads_judged (t : AssetType) {payload : Json} (kept : payload.Kept) :
    (∀ a, check t payload = .ok a ↔ ∃ values, a = ⟨t, values⟩ ∧ Documents t payload values) ∧
    ((∀ values, ¬Documents t payload values) → ∃ why, check t payload = .error (.invalid t why.message) ∧
      ∀ entries, payload = .object entries → Blamed t entries why) := by
  refine ⟨fun a => mapError_eq_ok_iff.trans (ofPayload_eq_ok_iff kept.keysOnce), fun undocumented => ?_⟩
  cases reads : ofPayload t payload with
  | ok a =>
    obtain ⟨values, -, given⟩ := (ofPayload_eq_ok_iff kept.keysOnce).1 reads
    exact absurd given (undocumented values)
  | error why =>
    refine ⟨why, by unfold check; rw [reads]; rfl, ?_⟩
    rintro entries rfl
    have fails : (record t).ofEntries entries = .error why := error_of_map reads
    have refuses := Json.Record.refuses_of_error (distinct_fields t) kept.keysOnce fails
    cases kept with
    | object ascending _ => exact blamed_of_refuses ascending refuses

/-- Both the resolution and the kind are of the wrong type, and the buttons are missing. -/
def oddMouse : Json := .object [("colour", .text "grey"), ("dpi", .text "high"), ("type", .whole 5)]

/-- A text in place of a number is what is reported, and a column that is missing behind it is not. -/
theorem oddMouse_judged : oddMouse.Kept ∧ (∀ values, ¬Documents .mouse oddMouse values) ∧
    check .mouse oddMouse = .error (.invalid .mouse "invalid type: string \"high\", expected i32") := by
  have kept : oddMouse.Kept := by
    refine .object (by decide) ?_
    simp only [List.forall_mem_cons]
    exact ⟨.text _, .text _, .whole (by decide) (by decide), nofun⟩
  have high : Kind.int32.IllTyped (.text "high") := nofun
  have undocumented : ∀ values, ¬Documents .mouse oddMouse values := by
    rintro values ⟨given⟩
    obtain ⟨v, j, member, means⟩ := given.of_getElem? (i := 1) (x := ⟨"dpi", .int32⟩) rfl
    have same : j = .text "high" := by simpa using member
    exact high v (same ▸ means)
  obtain ⟨why, refused, blamed⟩ := (payloads_judged .mouse kept).2 undocumented
  have dpi : (⟨"dpi", .int32⟩ : Column) ∈ columns .mouse := by decide
  refine ⟨kept, undocumented, refused.trans ?_⟩
  cases blamed _ rfl with
  | @illTyped c j member there _ least =>
    have least := least _ dpi _ (by simp) high
    have isMouse : c = ⟨"type", .text⟩ ∨ c = ⟨"dpi", .int32⟩ ∨ c = ⟨"number_of_buttons", .int32⟩ := by
      simpa [columns] using member
    rcases isMouse with rfl | rfl | rfl
    · exact absurd least (by decide)
    · have same : j = .text "high" := by simpa using there
      rw [same]
      rfl
    · simp at there
  | missing fits => exact absurd high (fits _ dpi _ (by simp))

end AssetRegistry.Attributes
