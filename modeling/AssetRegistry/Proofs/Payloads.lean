import AssetRegistry.Proofs.Ensures
import AssetRegistry.Specs.Patch

namespace AssetRegistry.Json

/-- What a document gives a field: an object by the field's name, an array by its place. -/
def given? (name : String) (place : Nat) : Json → Option Json
  | .object entries => entries.lookup name
  | .array items => items[place]?
  | _ => none

/-- Every value of a record is as wanted of its place and field. -/
def Tuple.Each : (fields : List Field) → (Nat → (f : Field) → f.Value → Prop) → Tuple fields → Prop
  | [], _, _ => True
  | f :: fs, wanted, (v, vs) => wanted 0 f v ∧ Each fs (fun i => wanted (i + 1)) vs

/-- The value is read from what is given to the field, or is the field's own where nothing is. -/
def Field.Takes (f : Field) (given : Option Json) (v : f.Value) : Prop :=
  match given with
  | some j => f.decoder.ofJson j = .ok v
  | none => f.whenAbsent = some v ∨ f.whenShort = some v

/-- In an array each field takes the item at its place. -/
theorem ofItems_takes {wanted : String} {fields : List Field} {index left : Nat} {items : List Json} {vs : Tuple fields}
    (reads : Record.ofItems wanted fields index items = .ok (vs, left)) :
    Tuple.Each fields (fun i f => f.Takes items[i]?) vs := by
  induction fields generalizing index left items with
  | nil => trivial
  | cons f fs ih =>
    cases items with
    | nil =>
      unfold Record.ofItems at reads
      split at reads
      next v short =>
        obtain ⟨⟨rest, _⟩, readsRest, same⟩ := ok_of_map reads
        obtain ⟨rfl, -⟩ := Prod.mk.inj same
        exact ⟨Or.inr short, by simpa using ih readsRest⟩
      next => cases reads
    | cons item items =>
      unfold Record.ofItems at reads
      split at reads
      next => cases reads
      next v reading =>
        obtain ⟨⟨rest, _⟩, readsRest, same⟩ := ok_of_map reads
        obtain ⟨rfl, -⟩ := Prod.mk.inj same
        exact ⟨reading, by simpa using ih readsRest⟩

/-- How the slot of a field is filled from some entries: it stays as it is, or takes the value under the field's name. -/
inductive Field.Fills (f : Field) (entries : List (String × Json)) : Option f.Value → Option f.Value → Prop
  | kept {slot : Option f.Value} : entries.lookup f.name = none → f.Fills entries slot slot
  | read {j : Json} {v : f.Value} : entries.lookup f.name = some j → f.decoder.ofJson j = .ok v →
      f.Fills entries none (some v)

theorem Field.Fills.cons {f : Field} {entry : String × Json} {entries : List (String × Json)}
    {slot middle filled : Option f.Value} (first : f.Fills [entry] slot middle) (rest : f.Fills entries middle filled) :
    f.Fills (entry :: entries) slot filled := by
  obtain ⟨key, value⟩ := entry
  by_cases same : f.name = key
  · have found (more : List (String × Json)) : ((key, value) :: more).lookup f.name = some value := by
      rw [List.lookup_cons, same, beq_self_eq_true]
    cases first with
    | kept absent => rw [found] at absent; cases absent
    | read here reads =>
      obtain rfl := Option.some.inj (here.symm.trans (found []))
      cases rest with
      | kept => exact .read (found entries) reads
  · have passed (more : List (String × Json)) : ((key, value) :: more).lookup f.name = more.lookup f.name := by
      rw [List.lookup_cons, beq_eq_false_iff_ne.2 same]
    cases first with
    | kept =>
      cases rest with
      | kept absent => exact .kept ((passed entries).trans absent)
      | read later reads => exact .read ((passed entries).trans later) reads
    | read here => rw [passed] at here; cases here

/-- All slots are filled from the entries. -/
def Slots.Filled (entries : List (String × Json)) : (fields : List Field) → (slots filled : Slots fields) → Prop
  | [], _, _ => True
  | f :: fs, (slot, slots), (filled, rest) => f.Fills entries slot filled ∧ Filled entries fs slots rest

namespace Slots
variable {fields : List Field} {slots filled : Slots fields} {entries : List (String × Json)}

theorem filled_of_absent (absent : ∀ f ∈ fields, entries.lookup f.name = none) : Filled entries fields slots slots := by
  induction fields with
  | nil => trivial
  | cons f fs ih =>
    exact ⟨.kept (absent f List.mem_cons_self), ih fun f member => absent f (List.mem_cons_of_mem _ member)⟩

theorem Filled.cons {entry : String × Json} {middle : Slots fields} (first : Filled [entry] fields slots middle)
    (rest : Filled entries fields middle filled) : Filled (entry :: entries) fields slots filled := by
  induction fields with
  | nil => trivial
  | cons f fs ih => exact ⟨first.1.cons rest.1, ih first.2 rest.2⟩

theorem filled_of_fill {key : String} {value : Json} (distinct : (fields.map (·.name)).Nodup)
    (fills : fill fields slots key value = .ok filled) : Filled [(key, value)] fields slots filled := by
  induction fields with
  | nil => trivial
  | cons f fs ih =>
    obtain ⟨slot, slots⟩ := slots
    obtain ⟨unlike, distinct⟩ := List.nodup_cons.1 distinct
    rw [fill] at fills
    split at fills
    next same =>
      cases slot with
      | some v => cases fills
      | none =>
        obtain ⟨v, reads, same'⟩ := ok_of_map fills
        subst same'
        refine ⟨.read (by rw [same, List.lookup_cons, beq_self_eq_true]) reads, filled_of_absent fun g member => ?_⟩
        have other : g.name ≠ key := by
          rintro rfl
          exact unlike (List.mem_map.2 ⟨g, member, same⟩)
        rw [List.lookup_cons, beq_eq_false_iff_ne.2 other]
        rfl
    next other =>
      obtain ⟨rest, fillsRest, same⟩ := ok_of_map fills
      subst same
      exact ⟨.kept (by rw [List.lookup_cons, beq_eq_false_iff_ne.2 (Ne.symm other)]; rfl), ih distinct fillsRest⟩

/-- The entries fill the slots, by induction on them. -/
theorem filled_of_entries (distinct : (fields.map (·.name)).Nodup)
    (fills : entries.foldlM (fun slots entry => fill fields slots entry.1 entry.2) slots = .ok filled) :
    Filled entries fields slots filled := by
  -- The slots change from entry to entry, so the filling of all of them is composed of single ones.
  induction entries generalizing slots with
  | nil =>
    obtain rfl := Except.ok.inj fills
    exact filled_of_absent fun _ _ => rfl
  | cons entry entries ih =>
    obtain ⟨middle, first, rest⟩ := ok_of_bind fills
    exact (filled_of_fill distinct first).cons (ih rest)

-- A slot that is still empty at the end belongs to a field that no entry names.
/-- In an object each field takes what is there under its name. -/
theorem finish_takes {vs : Tuple fields} (filled : Filled entries fields (empty fields) slots)
    (finishes : finish fields slots = .ok vs) : Tuple.Each fields (fun _ f => f.Takes (entries.lookup f.name)) vs := by
  induction fields with
  | nil => trivial
  | cons f fs ih =>
    obtain ⟨slot, slots⟩ := slots
    rw [finish] at finishes
    split at finishes
    next v found =>
      obtain ⟨rest, finishesRest, same⟩ := ok_of_map finishes
      subst same
      refine ⟨?_, ih filled.2 finishesRest⟩
      have first : f.Fills entries none slot := filled.1
      show f.Takes (entries.lookup f.name) v
      cases first with
      | kept absent =>
        rw [absent]
        exact Or.inl found
      | read here reads =>
        obtain rfl := Option.some.inj found
        rw [here]
        exact reads
    next => cases finishes

end Slots

/-- Every field takes what the document gives it. -/
theorem Record.ofJson_takes {r : Record} {document : Json} {vs : Tuple r.fields}
    (distinct : (r.fields.map (·.name)).Nodup) (reads : r.ofJson document = .ok vs) :
    Tuple.Each r.fields (fun i f => f.Takes (document.given? f.name i)) vs := by
  unfold ofJson at reads
  split at reads
  next entries =>
    obtain ⟨slots, fills, finishes⟩ := ok_of_bind (x := List.foldlM _ _ _) reads
    exact Slots.finish_takes (Slots.filled_of_entries distinct fills) finishes
  next items =>
    obtain ⟨⟨vs', left⟩, read, rest⟩ := ok_of_bind (x := ofItems _ _ _ _) reads
    dsimp only at rest
    split at rest
    next =>
      obtain rfl := Except.ok.inj rest
      exact ofItems_takes read
    next => cases rest
  next => cases reads

end AssetRegistry.Json

namespace AssetRegistry.Specs

/-- What a payload gives a column, unless that is null. -/
def given? (payload : Json) (place : Nat) (c : Column) : Option Json :=
  match payload.given? c.name place with
  | some .null | none => none
  | some j => some j

/-- Null is no value of a column. -/
theorem Kind.decoder_null (k : Kind) (v : k.Value) : k.decoder.ofJson .null ≠ .ok v := by
  cases k <;> rintro ⟨⟩

theorem given?_of_some {payload j : Json} {place : Nat} {c : Column} (here : payload.given? c.name place = some j)
    (something : j ≠ .null) : given? payload place c = some j := by
  unfold given?
  rw [here]
  split
  next same => exact absurd (Option.some.inj same) something
  next same => cases same
  next same => exact same.symm

/-- A change tells the value that the payload gives the column, if there is one. -/
theorem Column.change_takes {payload : Json} {place : Nat} {c : Column} {change : Change c.kind.Value}
    (takes : c.change.Takes (payload.given? c.name place) change) :
    match given? payload place c with
    | some j => ∃ v, c.kind.decoder.ofJson j = .ok v ∧ change.value? = some v
    | none => change.value? = none := by
  unfold Json.Field.Takes at takes
  split at takes
  next j here =>
    obtain ⟨found, read, told⟩ := ok_of_map takes
    subst told
    cases j with
    | null =>
      obtain rfl := Except.ok.inj read
      unfold given?
      rw [here]
      rfl
    | _ =>
      rw [given?_of_some here nofun]
      obtain ⟨v, reads, same⟩ := ok_of_map read
      subst same
      exact ⟨v, reads, rfl⟩
  next absent =>
    have absentHere : given? payload place c = none := by
      unfold given?
      rw [absent]
    rw [absentHere]
    rcases takes with same | same
    · obtain rfl := Option.some.inj same
      rfl
    · obtain rfl := Option.some.inj same
      rfl

theorem distinct_columns (t : AssetType) : ((columns t).map (·.name)).Nodup := by
  cases t <;> decide +kernel

variable {cs : List Column} {wanted : Nat → (f : Json.Field) → f.Value → Prop} {i : Nat} {c : Column}

theorem Values.each_args {vs : Values cs} (each : Json.Tuple.Each (cs.map Column.field) wanted vs)
    (isColumn : cs[i]? = some c) :
    ∃ v : c.kind.Value, wanted i c.field v ∧ (toArgs cs vs)[i]? = some (c.kind.toValue v) := by
  induction cs generalizing i wanted with
  | nil => cases isColumn
  | cons first rest ih =>
    obtain ⟨v, vs⟩ := vs
    cases i with
    | zero =>
      obtain rfl := Option.some.inj isColumn
      exact ⟨v, each.1, rfl⟩
    | succ i => exact ih each.2 isColumn

theorem Changes.mem_columns {name : String} {changes : Changes cs}
    (member : name ∈ (assignments cs changes).map (·.1)) : ∃ c ∈ cs, c.name = name := by
  induction cs with
  | nil => simp [assignments] at member
  | cons c cs ih =>
    obtain ⟨change, changes⟩ := changes
    rw [assignments] at member
    split at member
    · rcases List.mem_cons.1 member with rfl | later
      · exact ⟨c, List.mem_cons_self, rfl⟩
      · obtain ⟨c, among, same⟩ := ih later
        exact ⟨c, List.mem_cons_of_mem _ among, same⟩
    · obtain ⟨c, among, same⟩ := ih member
      exact ⟨c, List.mem_cons_of_mem _ among, same⟩

theorem Changes.lookup_cons {first : Column} {rest : List Column} (distinct : ((first :: rest).map (·.name)).Nodup)
    (change : Change first.kind.Value) (changes : Changes rest) (name : String) :
    (assignments (first :: rest) (change, changes)).lookup name =
      if name = first.name then change.value?.map first.kind.toValue else (assignments rest changes).lookup name := by
  cases change with
  | set v =>
    show ((first.name, first.kind.toValue v) :: assignments rest changes).lookup name = _
    by_cases same : name = first.name
    · rw [if_pos same, List.lookup_cons, same, beq_self_eq_true]
      rfl
    · rw [if_neg same, List.lookup_cons, beq_eq_false_iff_ne.2 same]
  | _ =>
    show (assignments rest changes).lookup name = _
    by_cases same : name = first.name
    · rw [if_pos same]
      refine List.lookup_eq_none_iff.2 fun pair member => bne_iff_ne.2 ?_
      rintro named
      obtain ⟨c, among, sameName⟩ := mem_columns (List.mem_map_of_mem member)
      exact (List.nodup_cons.1 distinct).1 (List.mem_map.2 ⟨c, among, sameName.trans (named.symm.trans same)⟩)
    · rw [if_neg same]

theorem Changes.each_assignments {changes : Changes cs} (distinct : (cs.map (·.name)).Nodup)
    (each : Json.Tuple.Each (cs.map Column.change) wanted changes) (isColumn : cs[i]? = some c) :
    ∃ change : Change c.kind.Value, wanted i c.change change ∧
      (assignments cs changes).lookup c.name = change.value?.map c.kind.toValue := by
  induction cs generalizing i wanted with
  | nil => cases isColumn
  | cons first rest ih =>
    obtain ⟨change, changes⟩ := changes
    cases i with
    | zero =>
      obtain rfl := Option.some.inj isColumn
      exact ⟨change, each.1, (lookup_cons distinct change changes first.name).trans (if_pos rfl)⟩
    | succ i =>
      obtain ⟨unlike, distinctRest⟩ := List.nodup_cons.1 distinct
      have other : c.name ≠ first.name := fun same => unlike (List.mem_map.2 ⟨c, List.mem_of_getElem? isColumn, same⟩)
      obtain ⟨change', takes, found⟩ := ih distinctRest each.2 isColumn
      exact ⟨change', takes, ((lookup_cons distinct change changes c.name).trans (if_neg other)).trans found⟩

end AssetRegistry.Specs

namespace AssetRegistry
open Specs

/-- The attributes that a payload is read as hold what the payload gives each column. -/
theorem Attributes.args_of_payload {t : AssetType} {payload : Json} {a : Attributes} (reads : ofPayload t payload = .ok a) :
    a.type = t ∧ ∀ i c, (columns t)[i]? = some c → ∃ j v, given? payload i c = some j ∧ c.kind.decoder.ofJson j = .ok v ∧
      a.args[i]? = some (c.kind.toValue v) := by
  obtain ⟨values, read, rfl⟩ := ok_of_map reads
  refine ⟨rfl, fun i c isColumn => ?_⟩
  have distinct : ((record t).fields.map (·.name)).Nodup := by
    simpa [record, Function.comp_def, Column.field, Json.Field.required] using distinct_columns t
  obtain ⟨v, takes, found⟩ := Values.each_args (Json.Record.ofJson_takes distinct read) isColumn
  unfold Json.Field.Takes at takes
  split at takes
  next j here =>
    refine ⟨j, v, given?_of_some here ?_, takes, found⟩
    rintro rfl
    exact c.kind.decoder_null v takes
  next => rcases takes with ⟨⟨⟩⟩ | ⟨⟨⟩⟩

/-- The update that a payload is read as writes what the payload gives each column, and nothing under the others. -/
theorem AttributesPatch.assignments_of_payload {t : AssetType} {payload : Json} {p : AttributesPatch}
    (reads : ofPayload t payload = .ok p) :
    p.type = t ∧ ∀ i c, (columns t)[i]? = some c →
      match given? payload i c with
      | some j => ∃ v, c.kind.decoder.ofJson j = .ok v ∧ p.assignments.lookup c.name = some (c.kind.toValue v)
      | none => p.assignments.lookup c.name = none := by
  obtain ⟨changes, read, rfl⟩ := ok_of_map reads
  refine ⟨rfl, fun i c isColumn => ?_⟩
  have distinct : ((record t).fields.map (·.name)).Nodup := by
    simpa [record, Function.comp_def, Column.change, Json.Field.withDefault] using distinct_columns t
  obtain ⟨change, takes, found⟩ :=
    Changes.each_assignments (distinct_columns t) (Json.Record.ofJson_takes distinct read) isColumn
  have told := Column.change_takes takes
  split at told
  next j here =>
    obtain ⟨v, reads, value⟩ := told
    exact ⟨v, reads, by rw [assignments, found, value]; rfl⟩
  next => rw [assignments, found, told]; rfl

end AssetRegistry
