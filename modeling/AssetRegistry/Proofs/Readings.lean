import AssetRegistry.Proofs.Acceptance
import AssetRegistry.Proofs.Amendments

namespace AssetRegistry.Specs

/-- How an update reads what it gives a column: nothing and null are told apart, and all else has to be a value of the
column's kind. -/
inductive Column.Reads (c : Column) : Option Json → Change c.kind.Value → Prop
  | absent : Reads c none .absent
  | null : Reads c (some .null) .null
  | set {j : Json} {v : c.kind.Value} : c.kind.Means j v → Reads c (some j) (.set v)

theorem Column.change_ofJson (c : Column) {j : Json} (something : j ≠ .null) :
    c.change.decoder.ofJson j = (c.kind.decoder.ofJson j).map Change.set := by
  have told : c.change.decoder.ofJson j =
      ((c.kind.decoder.ofJson j).map some).map fun v => v.elim Change.null Change.set := by
    cases j with
    | null => exact absurd rfl something
    | _ => rfl
  rw [told]
  cases c.kind.decoder.ofJson j <;> rfl

/-- The field of an update takes a change exactly if the column reads it. -/
theorem Column.change_takes_iff {c : Column} {given : Option Json} {change : Change c.kind.Value} :
    c.change.Takes given change ↔ c.Reads given change := by
  constructor
  · intro takes
    cases given with
    | none =>
      have own : some Change.absent = some change := takes.elim id id
      obtain rfl := Option.some.inj own
      exact .absent
    | some j =>
      have reads : c.change.decoder.ofJson j = .ok change := takes
      by_cases nothing : j = .null
      · subst nothing
        obtain rfl := Except.ok.inj reads
        exact .null
      · rw [c.change_ofJson nothing] at reads
        obtain ⟨v, means, rfl⟩ := ok_of_map reads
        exact .set (Kind.means_of_decoder means)
  · intro reads
    cases reads with
    | absent => exact .inl rfl
    | null => rfl
    | @set j v means =>
      have something : j ≠ .null := by
        rintro rfl
        exact c.kind.decoder_null v means.decoder
      show c.change.decoder.ofJson j = .ok (.set v)
      rw [c.change_ofJson something, means.decoder]
      rfl

/-- A value is set exactly if the payload has one of the kind. -/
theorem Column.reads_set_iff {c : Column} {given : Option Json} {v : c.kind.Value} :
    c.Reads given (.set v) ↔ ∃ j, given = some j ∧ c.kind.Means j v := by
  constructor
  · intro reads
    cases reads with
    | set means => exact ⟨_, rfl, means⟩
  · rintro ⟨j, rfl, means⟩
    exact .set means

/-- The update that sets every column to its value. -/
def Values.toChanges : (cs : List Column) → Values cs → Changes cs
  | [], _ => ()
  | c :: cs, (v, vs) => ((.set v : Change c.kind.Value), toChanges cs vs)

section
variable {cs : List Column}

/-- Values as changes are changes that set every column. -/
theorem Values.eachOf_toChanges {told : Nat → (c : Column) → Change c.kind.Value → Prop} {vs : Values cs} :
    Json.Tuple.EachOf Column.change cs told (toChanges cs vs) ↔
      Json.Tuple.EachOf Column.field cs (fun i c v => told i c (.set v)) vs := by
  induction cs generalizing told with
  | nil => exact Iff.rfl
  | cons c cs ih => exact and_congr_right fun _ => ih

theorem Values.names_toChanges (vs : Values cs) :
    (Changes.assignments cs (toChanges cs vs)).map (·.1) = cs.map (·.name) := by
  induction cs with
  | nil => rfl
  | cons c cs ih => exact congrArg (c.name :: ·) (ih vs.2)

/-- Changes that set every column come from values. -/
theorem Changes.exists_toChanges {changes : Changes cs}
    (complete : Json.Tuple.EachOf Column.change cs (fun _ c change => ∃ v : c.kind.Value, change = .set v) changes) :
    ∃ vs, Values.toChanges cs vs = changes := by
  induction cs with
  | nil => exact ⟨(), rfl⟩
  | cons c cs ih =>
    obtain ⟨change, changes⟩ := changes
    obtain ⟨⟨v, rfl⟩, rest⟩ := complete
    obtain ⟨vs, rfl⟩ := ih rest
    exact ⟨(v, vs), rfl⟩

end

variable {t : AssetType} {payload : Json}

/-- An update is read exactly of a payload whose columns are read, and that has nothing in excess. -/
theorem changes_iff (single : payload.KeysOnce)
    {changes : Changes (columns t)} : (AttributesPatch.record t).ofJson payload = .ok changes ↔
      payload.Holds (columns t).length ∧ Json.Tuple.EachOf Column.change (columns t)
        (fun i c change => c.Reads (payload.given? c.name i) change) changes := by
  have takes := Json.Record.ofJson_eq_ok_iff_eachOf (recordName t ++ "Patch") Column.change (distinct_columns t)
    (fun _ => rfl) single changes
  exact takes.trans (and_congr_right' (Json.Tuple.eachOf_congr fun _ _ _ => Column.change_takes_iff))

/-- Where every column is to be set, the two readers agree. -/
theorem toChanges_read_iff (single : payload.KeysOnce)
    {values : Values (columns t)} : (AttributesPatch.record t).ofJson payload = .ok (values.toChanges (columns t)) ↔
      (Attributes.record t).ofJson payload = .ok values := by
  have alike : Json.Tuple.EachOf Column.change (columns t) (fun i c change => c.Reads (payload.given? c.name i) change)
        (values.toChanges (columns t)) ↔
      Json.Tuple.EachOf Column.field (columns t)
        (fun i c v => ∃ j, payload.given? c.name i = some j ∧ c.kind.Means j v) values :=
    Values.eachOf_toChanges.trans (Json.Tuple.eachOf_congr fun _ _ _ => Column.reads_set_iff)
  exact (changes_iff single).trans ((and_congr_right' alike).trans (values_iff single).symm)

theorem names_written (t : AssetType) (payload : Json) : (written t payload).map (·.1) =
    ((columns t).zipIdx.filter fun place => (value? payload place.2 place.1).isSome).map (·.1.name) := by
  have names (places : List (Column × Nat)) :
      (places.filterMap fun place =>
        (value? payload place.2 place.1).map fun v => (place.1.name, place.1.kind.toValue v)).map (·.1) =
      (places.filter fun place => (value? payload place.2 place.1).isSome).map (·.1.name) := by
    induction places with
    | nil => rfl
    | cons place places ih =>
      rw [List.filterMap_cons, List.filter_cons]
      cases value? payload place.2 place.1 with
      | none => exact ih
      | some v => exact congrArg (place.1.name :: ·) ih
  exact names _

end AssetRegistry.Specs

namespace AssetRegistry
open Specs

/-- The update that sets all columns to what they are in the attributes. -/
def Attributes.toPatch (a : Attributes) : AttributesPatch := ⟨a.type, Values.toChanges (columns a.type) a.values⟩

namespace AttributesPatch

/-- Every column is set. -/
def Complete (p : AttributesPatch) : Prop :=
  Json.Tuple.EachOf Column.change (columns p.type) (fun _ c change => ∃ v : c.kind.Value, change = .set v) p.changes

/-- A complete update is the update of some attributes. -/
theorem Complete.eq_toPatch {p : AttributesPatch} (complete : p.Complete) : ∃ a : Attributes, p = a.toPatch := by
  obtain ⟨t, changes⟩ := p
  obtain ⟨values, same⟩ := Changes.exists_toChanges complete
  exact ⟨⟨t, values⟩, congrArg (AttributesPatch.mk t) same.symm⟩

theorem changedColumns_toPatch (a : Attributes) : a.toPatch.changedColumns = (columns a.type).map (·.name) :=
  Values.names_toChanges a.values

variable {t : AssetType} {payload : Json}

theorem ofPayload_eq_ok_iff {changes : Changes (columns t)} :
    ofPayload t payload = .ok ⟨t, changes⟩ ↔ (record t).ofJson payload = .ok changes := by
  constructor
  · intro reads
    obtain ⟨_, read, same⟩ := ok_of_map reads
    cases same
    exact read
  · intro read
    unfold ofPayload
    rw [read]
    rfl

theorem type_of_payload {p : AttributesPatch} (reads : ofPayload t payload = .ok p) : p.type = t :=
  (assignments_eq reads).1

/-- An update sets the columns that the payload gives something else than null. -/
theorem changedColumns_eq {p : AttributesPatch} (reads : ofPayload t payload = .ok p) : p.changedColumns =
    ((columns t).zipIdx.filter fun place => (given? payload place.2 place.1).isSome).map (·.1.name) := by
  unfold changedColumns
  rw [(assignments_eq reads).2, names_written]
  refine congrArg _ (List.filter_congr fun place member => ?_)
  have told := (assignments_of_payload reads).2 _ _ (List.mem_zipIdx_iff_getElem?.1 member)
  unfold value?
  split at told
  next j here =>
    obtain ⟨v, read, -⟩ := told
    rw [here, Option.bind_some, read]
    rfl
  next absent => rw [absent]; rfl

/-- What is accepted for attributes is accepted for an update, which sets every column to the same value, and what is
accepted for an update that sets every column is accepted for attributes. An update is accepted exactly if there is
nothing in excess and every column can be read: then it changes the columns that are given something else than null, in
their order, and is empty if there are none. -/
theorem payloads_alike (t : AssetType) {payload : Json} (kept : payload.Kept) :
    (∀ a, Attributes.check t payload = .ok a →
      check t payload = .ok a.toPatch ∧ a.toPatch.changedColumns = (columns t).map (·.name)) ∧
    (∀ p, check t payload = .ok p → p.Complete → ∃ a, Attributes.check t payload = .ok a ∧ p = a.toPatch) ∧
    (∀ p, check t payload = .ok p ↔ ∃ changes, p = ⟨t, changes⟩ ∧ payload.Holds (columns t).length ∧
      Json.Tuple.EachOf Column.change (columns t)
        (fun i c change => c.Reads (payload.given? c.name i) change) changes) ∧
    ∀ p, check t payload = .ok p →
      p.changedColumns =
        ((columns t).zipIdx.filter fun place => (given? payload place.2 place.1).isSome).map (·.1.name) ∧
      (p.isEmpty = true ↔ ∀ i c, (columns t)[i]? = some c → given? payload i c = none) := by
  have single := kept.keysOnce
  refine ⟨fun a accepted => ?_, fun p accepted complete => ?_, fun p => ⟨fun accepted => ?_, ?_⟩, fun p accepted => ?_⟩
  · obtain ⟨values, read, rfl⟩ := ok_of_map (ok_of_mapError accepted)
    have alike := (toChanges_read_iff single).2 read
    exact ⟨mapError_eq_ok_iff.2 (ofPayload_eq_ok_iff.2 alike), changedColumns_toPatch ⟨t, values⟩⟩
  · have reads := ok_of_mapError accepted
    obtain ⟨⟨type, values⟩, rfl⟩ := complete.eq_toPatch
    obtain rfl : type = t := type_of_payload reads
    have read := (toChanges_read_iff single).1 (ofPayload_eq_ok_iff.1 reads)
    have attributes : Attributes.ofPayload type payload = .ok ⟨type, values⟩ := by
      unfold Attributes.ofPayload
      rw [read]
      rfl
    exact ⟨⟨type, values⟩, mapError_eq_ok_iff.2 attributes, rfl⟩
  · obtain ⟨changes, read, rfl⟩ := ok_of_map (ok_of_mapError accepted)
    exact ⟨changes, rfl, (changes_iff single).1 read⟩
  · rintro ⟨changes, rfl, read⟩
    exact mapError_eq_ok_iff.2 (ofPayload_eq_ok_iff.2 ((changes_iff single).2 read))
  · have reads := ok_of_mapError accepted
    exact ⟨changedColumns_eq reads, isEmpty_iff reads⟩

/-- Some columns of a laptop by their places, without a charger. The size of its screen is a whole number. -/
def someOfLaptop : Json := .array [.null, .whole 32, .null, .text "ssd", .whole 14]

def allOfMouse : Json := .object [("dpi", .whole 1600), ("number_of_buttons", .whole 3), ("type", .text "wireless")]

theorem mouse_and_laptop_alike : allOfMouse.Kept ∧ someOfLaptop.Kept ∧
    Attributes.check .mouse allOfMouse = .ok ⟨.mouse, ("wireless", (1600 : Int32), (3 : Int32), ())⟩ ∧
    check .mouse allOfMouse = .ok ⟨.mouse, (.set "wireless", .set (1600 : Int32), .set (3 : Int32), ())⟩ ∧
    ∃ p, check .laptop someOfLaptop = .ok p ∧ p.changedColumns = ["ram_gb", "storage_type", "screen_size_inch"] := by
  have mouseKept : allOfMouse.Kept := by
    refine .object (by decide) ?_
    simp only [List.forall_mem_cons]
    exact ⟨.whole (by decide) (by decide), .whole (by decide) (by decide), .text _, nofun⟩
  have laptopKept : someOfLaptop.Kept := by
    refine .array ?_
    simp only [List.forall_mem_cons]
    exact ⟨.null, .whole (by decide) (by decide), .null, .text _, .whole (by decide) (by decide), nofun⟩
  have accepted : Attributes.check .mouse allOfMouse = .ok ⟨.mouse, ("wireless", (1600 : Int32), (3 : Int32), ())⟩ :=
    rfl
  obtain ⟨p, reads⟩ : ∃ p, check .laptop someOfLaptop = .ok p := ⟨_, rfl⟩
  refine ⟨mouseKept, laptopKept, accepted, ((payloads_alike .mouse mouseKept).1 _ accepted).1, p, reads, ?_⟩
  rw [((payloads_alike .laptop laptopKept).2.2.2 p reads).1]
  decide

end AttributesPatch

end AssetRegistry
