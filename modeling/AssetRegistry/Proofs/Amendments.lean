import AssetRegistry.Proofs.Cells
import AssetRegistry.Proofs.Outcomes
import AssetRegistry.Proofs.Tables
import Mathlib.Tactic.ByContra

namespace AssetRegistry.Json

theorem Slots.fill_unknown {fields : List Field} {key : String} (unknown : ∀ f ∈ fields, f.name ≠ key)
    (slots : Slots fields) (value : Json) : fill fields slots key value = .ok slots := by
  induction fields with
  | nil => rfl
  | cons f fs ih =>
    obtain ⟨slot, slots⟩ := slots
    have other : key ≠ f.name := (unknown f List.mem_cons_self).symm
    rw [fill, if_neg other, ih (fun g member => unknown g (List.mem_cons_of_mem _ member)) slots]
    rfl

/-- The entry is under the key of a field. -/
def Record.names (r : Record) (entry : String × Json) : Bool := r.fields.any (·.name = entry.1)

/-- Entries under keys that no field has make no difference. -/
theorem Record.ofEntries_known (r : Record) (entries : List (String × Json)) :
    r.ofEntries (entries.filter r.names) = r.ofEntries entries := by
  have passed (slots : Slots r.fields) :
      (entries.filter r.names).foldlM (fun slots entry => Slots.fill r.fields slots entry.1 entry.2) slots =
        entries.foldlM (fun slots entry => Slots.fill r.fields slots entry.1 entry.2) slots := by
    induction entries generalizing slots with
    | nil => rfl
    | cons entry entries ih =>
      by_cases known : r.names entry
      · rw [List.filter_cons_of_pos known, List.foldlM_cons, List.foldlM_cons]
        exact congrArg _ (funext ih)
      · have unknown : ∀ f ∈ r.fields, f.name ≠ entry.1 := by simpa [names] using known
        rw [List.filter_cons_of_neg known, List.foldlM_cons, Slots.fill_unknown unknown, ih]
        rfl
  unfold ofEntries
  rw [passed]

end AssetRegistry.Json

namespace AssetRegistry.Specs
open Store

/-- The value that a payload gives a column. -/
def value? (payload : Json) (place : Nat) (c : Column) : Option c.kind.Value :=
  (given? payload place c).bind fun j => (c.kind.decoder.ofJson j).toOption

/-- The columns of a type that a payload has a value for, in their order and with their values. -/
def written (t : AssetType) (payload : Json) : List (String × Value) :=
  (columns t).zipIdx.filterMap fun place =>
    (value? payload place.2 place.1).map fun v => (place.1.name, place.1.kind.toValue v)

theorem Column.change_value {payload : Json} {place : Nat} {c : Column} {change : Change c.kind.Value}
    (takes : c.change.Takes (payload.given? c.name place) change) : change.value? = value? payload place c := by
  have told := change_takes takes
  unfold value?
  split at told
  next j here =>
    obtain ⟨v, reads, same⟩ := told
    rw [same, here, Option.bind_some, reads]
    rfl
  next absent => rw [told, absent, Option.bind_none]

/-- The assignments are the columns with values, in the order of the table. -/
theorem Changes.assignments_eq {payload : Json} {cs : List Column} {start : Nat} {changes : Changes cs}
    (each : Json.Tuple.Each (cs.map Column.change) (fun i f => f.Takes (payload.given? f.name (start + i))) changes) :
    assignments cs changes =
      (cs.zipIdx start).filterMap fun place =>
        (value? payload place.2 place.1).map fun v => (place.1.name, place.1.kind.toValue v) := by
  induction cs generalizing start with
  | nil => rfl
  | cons c cs ih =>
    obtain ⟨change, changes⟩ := changes
    obtain ⟨first, rest⟩ := each
    have later : Json.Tuple.Each (cs.map Column.change)
        (fun i f => f.Takes (payload.given? f.name (start + 1 + i))) changes := by
      have shifted : (fun (i : Nat) (f : Json.Field) => f.Takes (payload.given? f.name (start + (i + 1)))) =
          fun i f => f.Takes (payload.given? f.name (start + 1 + i)) := by
        funext i f
        rw [Nat.add_assoc, Nat.add_comm 1 i]
      rwa [← shifted]
    have value := Column.change_value first
    rw [Nat.add_zero] at value
    rw [assignments, List.zipIdx_cons, List.filterMap_cons, ← ih later, value]
    dsimp only
    cases value? payload start c <;> rfl

end AssetRegistry.Specs

namespace AssetRegistry
open Store Service Exchange Specs

/-- The update that a payload is read as writes exactly the columns that the payload has a value for. -/
theorem AttributesPatch.assignments_eq {t : AssetType} {payload : Json} {p : AttributesPatch}
    (reads : ofPayload t payload = .ok p) : p.type = t ∧ p.assignments = written t payload := by
  obtain ⟨changes, read, rfl⟩ := ok_of_map reads
  have distinct : ((record t).fields.map (·.name)).Nodup := by
    simpa [record, Function.comp_def, Column.change, Json.Field.withDefault] using distinct_columns t
  have each : Json.Tuple.Each ((columns t).map Column.change)
      (fun i f => f.Takes (payload.given? f.name (0 + i))) changes := by
    simp only [Nat.zero_add]
    exact Json.Record.ofJson_takes distinct read
  exact ⟨rfl, Changes.assignments_eq each⟩

/-- An update that is accepted writes something exactly if the payload gives some column something. -/
theorem AttributesPatch.isEmpty_iff {t : AssetType} {payload : Json} {p : AttributesPatch}
    (reads : ofPayload t payload = .ok p) :
    p.isEmpty = true ↔ ∀ i c, (columns t)[i]? = some c → given? payload i c = none := by
  obtain ⟨-, told⟩ := assignments_of_payload reads
  constructor
  · intro empty i c isColumn
    have none : p.assignments = [] := List.isEmpty_iff.1 empty
    have here := told i c isColumn
    split at here
    next j given =>
      obtain ⟨v, -, found⟩ := here
      rw [none] at found
      cases found
    next absent => exact absent
  · intro absent
    refine List.isEmpty_iff.2 ?_
    rw [(assignments_eq reads).2, written, List.filterMap_eq_nil_iff]
    intro place member
    have isColumn : (columns t)[place.2]? = some place.1 := List.mem_zipIdx_iff_getElem?.1 member
    rw [value?, absent _ _ isColumn]
    rfl

/-- The columns of an asset that a request gives, the serial number without the blanks about it. -/
def UpdateAsset.columns (req : UpdateAsset) : AssetPatch :=
  { req.fields with serialNo := req.fields.serialNo.map Text.trim }

namespace Assets

/-- What is sent for the attributes of an asset that it has. Nothing is sent unless the request has a payload, that is not
null, and the payload gives some column of the asset's type something else than null. -/
inductive AmendsAttributes (existing : Asset) (specs : Option Json) : List Event → Prop
  | silent : (∀ payload, specs = some payload → payload ≠ .null →
        ∀ i c, (columns existing.assetType)[i]? = some c → given? payload i c = none) →
      AmendsAttributes existing specs []
  | sent {payload : Json} {patch : AttributesPatch} {reply : Reply} : specs = some payload → payload ≠ .null →
      (∃ i c, (columns existing.assetType)[i]? = some c ∧ given? payload i c ≠ none) →
      (∀ i c j, (columns existing.assetType)[i]? = some c → given? payload i c = some j →
        ∃ v, c.kind.decoder.ofJson j = .ok v) →
      (Statement.updateAttributes patch existing.specsId).Changes (table existing.assetType) existing.specsId
        (written existing.assetType payload) →
      reply.isFailed = false →
      AmendsAttributes existing specs [(.statement (.updateAttributes patch existing.specsId), reply)]

/-- What is sent when an asset has been updated: it is looked up, and its row is written in one transaction with the row of
its attributes. -/
inductive Amends (actor : Actor) (id : Uuid) (req : UpdateAsset) : List Event → Prop
  | amended {row : Row} {rows : List Row} {existing : Asset} {opened saved closed : Reply} {attributes : List Event} :
      Asset.ofRow row = .ok existing → opened.isFailed = false → saved.isFailed = false → closed.isFailed = false →
      (Statement.updateAsset id req.columns actor.userId).Changes "assets" id
        [("serial_no", .ofOption .text (req.fields.serialNo.map Text.trim)),
          ("owned_by", .ofOption .ofLabel req.fields.ownedBy),
          ("purchased_date", .ofOption .date req.fields.purchasedDate),
          ("warranty_start_date", .ofOption .date req.fields.warrantyStart),
          ("warranty_exp_date", .ofOption .date req.fields.warrantyEnd), ("updated_by", .uuid actor.userId)] →
      AmendsAttributes existing req.specs attributes →
      Amends actor id req
        ((.statement (.findAsset id), .rows (row :: rows)) :: (.begin, opened) ::
          (.statement (.updateAsset id req.columns actor.userId), saved) :: (attributes ++ [(.commit, closed)]))

theorem isFailed_of_toCount {reply : Reply} {count : Nat} (counts : reply.toCount = .ok count) :
    reply.isFailed = false := by
  cases reply with
  | failed fault => cases counts
  | _ => rfl

theorem outcome_execute {q : Statement} {events : List Event} {result : Except StoreError Nat}
    (ends : (execute q).Outcome events result) :
    ∃ reply, events = [(.statement q, reply)] ∧ reply.toCount = result := by
  rw [execute_eq_single] at ends
  exact outcome_single ends

/-- The look-up of an asset finds what the first row of its reply reads as. -/
theorem outcome_find {id : Uuid} {events : List Event} {result : Except ServiceError Asset}
    (ends : (find id).Outcome events result) :
    ∃ reply, events = [(.statement (.findAsset id), reply)] ∧ ∀ existing,
      result = .ok existing ↔ ∃ row rows, reply = .rows (row :: rows) ∧ Asset.ofRow row = .ok existing := by
  have read {reply : Reply} {row : Row} {rows : List Row} {existing : Asset} (same : reply = .rows (row :: rows))
      (reads : Asset.ofRow row = .ok existing) : reply.first? Asset.ofRow = .ok (some existing) := by
    rw [same, Reply.first?, reads]
    rfl
  rcases outcome_bind ends with ⟨found, _, _, looks, decides, rfl⟩ | ⟨e, looks, rfl⟩
  · obtain ⟨reply, rfl, told⟩ := outcome_fetchOptional_ok (outcome_mapError_ok looks)
    cases found with
    | none =>
      obtain ⟨rfl, rfl⟩ := outcome_throw decides
      refine ⟨reply, rfl, fun existing => ⟨by rintro ⟨⟩, ?_⟩⟩
      rintro ⟨row, rows, same, reads⟩
      rw [read same reads] at told
      cases told
    | some asset =>
      obtain ⟨rfl, rfl⟩ := outcome_pure decides
      refine ⟨reply, rfl, fun existing => ⟨?_, ?_⟩⟩
      · rintro ⟨⟩
        exact rows_of_first? told
      · rintro ⟨row, rows, same, reads⟩
        rw [read same reads] at told
        exact congrArg Except.ok (Option.some.inj (Except.ok.inj told)).symm
  · obtain ⟨inner, looks, same⟩ := outcome_mapError looks
    unfold lookUp at looks
    rw [fetchOptional_eq_single] at looks
    obtain ⟨reply, rfl, rfl⟩ := outcome_single looks
    refine ⟨reply, rfl, fun existing => ⟨by rintro ⟨⟩, ?_⟩⟩
    rintro ⟨row, rows, isRows, reads⟩
    rw [read isRows reads] at same
    cases same

/-- Whether the row of an asset has been written is told by the number of rows. -/
theorem outcome_write {id updatedBy : Uuid} {fields : AssetPatch} {events : List Event} {result : Except ServiceError Bool}
    (ends : (stored (write id fields updatedBy)).Outcome events result) :
    ∃ reply, events = [(.statement (.updateAsset id fields updatedBy), reply)] ∧
      ((∃ fault, reply = .failed fault ∧ result = .error (.ofStore (.ofFault fault))) ∨
        ∃ count, reply.toCount = .ok count ∧ result = .ok (decide (0 < count))) := by
  obtain ⟨inner, writes, rfl⟩ := outcome_mapError ends
  rcases outcome_bind writes with ⟨count, _, _, counts, tells, rfl⟩ | ⟨e, fails, rfl⟩
  · obtain ⟨reply, rfl, told⟩ := outcome_execute counts
    obtain ⟨rfl, rfl⟩ := outcome_pure tells
    exact ⟨reply, rfl, Or.inr ⟨count, told, rfl⟩⟩
  · obtain ⟨reply, rfl, told⟩ := outcome_execute fails
    cases reply with
    | failed fault =>
      obtain rfl := Except.error.inj told
      exact ⟨_, rfl, Or.inl ⟨fault, rfl, rfl⟩⟩
    | _ => cases told

/-- A payload that is applied has been sent, or had nothing to be sent. -/
theorem outcome_apply {t : AssetType} {specsId : Uuid} {payload : Json} {events : List Event}
    (ends : (AttributesPatch.apply t specsId payload).Outcome events (.ok ())) :
    ∃ patch, AttributesPatch.ofPayload t payload = .ok patch ∧
      ((patch.isEmpty = true ∧ events = []) ∨
        (patch.isEmpty = false ∧ ∃ reply, reply.isFailed = false ∧
          events = [(.statement (.updateAttributes patch specsId), reply)])) := by
  obtain ⟨patch, _, _, checks, sends, rfl⟩ := outcome_bind_ok ends
  obtain ⟨rfl, checked⟩ := outcome_ofExcept checks
  refine ⟨patch, ok_of_mapError checked, ?_⟩
  cases empty : patch.isEmpty with
  | true =>
    rw [if_pos empty] at sends
    exact Or.inl ⟨rfl, (outcome_pure sends).1⟩
  | false =>
    rw [if_neg (by simp [empty])] at sends
    obtain ⟨count, _, _, counts, confirms, rfl⟩ := outcome_bind_ok sends
    obtain ⟨reply, rfl, told⟩ := outcome_execute (outcome_mapError_ok counts)
    split at confirms
    next => cases (outcome_throw confirms).2
    next =>
      obtain ⟨rfl, -⟩ := outcome_pure confirms
      exact Or.inr ⟨rfl, reply, isFailed_of_toCount told, rfl⟩

/-- A payload that does not decode is not sent. -/
theorem outcome_apply_invalid {t : AssetType} {specsId : Uuid} {payload : Json} {events : List Event}
    {result : Except AttributesError Unit} {why : Json.Mismatch} (fails : AttributesPatch.ofPayload t payload = .error why)
    (ends : (AttributesPatch.apply t specsId payload).Outcome events result) :
    events = [] ∧ result = .error (.invalid t why.message) := by
  have refused : AttributesPatch.check t payload = .error (.invalid t why.message) := by
    unfold AttributesPatch.check
    rw [fails]
    rfl
  rcases outcome_bind ends with ⟨patch, _, _, checks, _, rfl⟩ | ⟨e, checks, rfl⟩
  · rw [refused] at checks
    cases (outcome_ofExcept checks).2
  · rw [refused] at checks
    obtain ⟨rfl, same⟩ := outcome_ofExcept checks
    exact ⟨rfl, congrArg Except.error (Except.error.inj same).symm⟩

theorem amendsAttributes_of_writes {existing : Asset} {req : UpdateAsset} {payload : Json} {events : List Event}
    (given : req.payload? = some payload)
    (ends : (AttributesPatch.apply existing.assetType existing.specsId payload).Outcome events (.ok ())) :
    AmendsAttributes existing req.specs events := by
  obtain ⟨isGiven, something⟩ := UpdateAsset.payload?_eq_some_iff.1 given
  obtain ⟨patch, reads, ⟨empty, rfl⟩ | ⟨changing, reply, begun, rfl⟩⟩ := outcome_apply ends
  · refine .silent fun other isOther _ => ?_
    obtain rfl := Option.some.inj (isGiven.symm.trans isOther)
    exact (AttributesPatch.isEmpty_iff reads).1 empty
  · obtain ⟨sameType, writes⟩ := AttributesPatch.assignments_eq reads
    have changes := patch.changes_row existing.specsId
    rw [sameType, writes] at changes
    refine .sent isGiven something ?_ ?_ changes begun
    · by_contra none
      have empty : patch.isEmpty = true := by
        refine (AttributesPatch.isEmpty_iff reads).2 fun i c isColumn => ?_
        by_contra some
        exact none ⟨i, c, isColumn, some⟩
      rw [empty] at changing
      cases changing
    · intro i c j isColumn here
      have told := (AttributesPatch.assignments_of_payload reads).2 i c isColumn
      rw [here] at told
      obtain ⟨v, reads, -⟩ := told
      exact ⟨v, reads⟩

theorem error_of_bind {ε α β : Type} {x : Except ε α} {f : α → Except ε β} {e : ε} (fails : (x >>= f) = .error e) :
    x = .error e ∨ ∃ a, x = .ok a ∧ f a = .error e := by
  cases x with
  | error e' =>
    obtain rfl := Except.error.inj fails
    exact Or.inl rfl
  | ok a => exact Or.inr ⟨a, rfl, fails⟩

/-- What is written is what the request gives. -/
theorem columns_of_checkUpdate {existing : Asset} {req : UpdateAsset} {fields : AssetPatch}
    (checked : checkUpdate existing req.fields = .ok fields) : fields = req.columns := by
  unfold checkUpdate at checked
  obtain ⟨_, -, checked⟩ := ok_of_bind checked
  obtain ⟨_, -, checked⟩ := ok_of_bind checked
  exact (Except.ok.inj checked).symm

/-- What is written of the attributes, if anything is given. -/
def writeAttributes (existing : Asset) : Option Json → Operation Unit
  | some payload => (AttributesPatch.apply existing.assetType existing.specsId payload).mapError .ofAttributes
  | none => pure ()

/-- The attributes are written only if the row of the asset has been. -/
theorem outcome_writeUpdate {actor : Actor} {id : Uuid} {existing : Asset} {fields : AssetPatch} {specs : Option Json}
    {events : List Event} {result : Except ServiceError Unit}
    (ends : (writeUpdate actor id existing fields specs).Outcome events result) :
    ∃ reply rest, events = (.statement (.updateAsset id fields actor.userId), reply) :: rest ∧
      ((∃ fault, reply = .failed fault ∧ rest = [] ∧ result = .error (.ofStore (.ofFault fault))) ∨
        (reply.toCount = .ok 0 ∧ rest = [] ∧ result = .error (assetNotFound id)) ∨
        ∃ count, reply.toCount = .ok count ∧ 0 < count ∧ (writeAttributes existing specs).Outcome rest result) := by
  rcases outcome_bind ends with ⟨saved, _, rest, writes, afterWrite, rfl⟩ | ⟨e, writes, rfl⟩
  · obtain ⟨reply, rfl, ⟨fault, -, fails⟩ | ⟨count, counts, told⟩⟩ := outcome_write writes
    · cases fails
    obtain rfl := Except.ok.inj told
    refine ⟨reply, rest, rfl, Or.inr ?_⟩
    by_cases positive : 0 < count
    · refine Or.inr ⟨count, counts, positive, ?_⟩
      rw [decide_eq_true positive] at afterWrite
      cases specs with
      | none => exact afterWrite
      | some payload => exact afterWrite
    · have missing : (throw (assetNotFound id) : Operation Unit).Outcome rest result := by
        rw [decide_eq_false positive] at afterWrite
        cases specs with
        | none => exact afterWrite
        | some payload => exact afterWrite
      obtain ⟨none, fails⟩ := outcome_throw missing
      obtain rfl : count = 0 := by omega
      exact Or.inl ⟨counts, none, fails.symm⟩
  · obtain ⟨reply, rfl, ⟨fault, failed, fails⟩ | ⟨count, -, fails⟩⟩ := outcome_write writes
    · obtain rfl := Except.error.inj fails
      exact ⟨reply, [], rfl, Or.inl ⟨fault, failed, rfl, rfl⟩⟩
    · cases fails

/-- An update that succeeds has found the asset, passed the check, and written what was given. -/
theorem amends_of_ok {actor : Actor} {id : Uuid} {req : UpdateAsset} {events : List Event}
    (ends : (update actor id req).Outcome events (.ok ())) : Amends actor id req events := by
  obtain ⟨existing, _, _, finds, afterFind, rfl⟩ := outcome_bind_ok ends
  obtain ⟨fields, _, _, checks, settles, rfl⟩ := outcome_bind_ok afterFind
  obtain ⟨reply, rfl, tells⟩ := outcome_find finds
  obtain ⟨row, rows, rfl, reads⟩ := (tells existing).1 rfl
  obtain ⟨rfl, checked⟩ := outcome_ofExcept checks
  obtain rfl := columns_of_checkUpdate checked
  obtain ⟨opened, sent, closed, begun, done, works, rfl⟩ := outcome_transaction_ok settles
  obtain ⟨saved, attributes, rfl, ⟨fault, -, -, fails⟩ | ⟨-, -, fails⟩ | ⟨count, counts, -, writes⟩⟩ :=
    outcome_writeUpdate works
  · cases fails
  · cases fails
  have amended : AmendsAttributes existing req.specs attributes := by
    cases given : req.payload? with
    | some payload =>
      rw [given] at writes
      exact amendsAttributes_of_writes given (outcome_mapError_ok writes)
    | none =>
      rw [given] at writes
      obtain ⟨rfl, -⟩ := outcome_pure writes
      refine .silent fun payload isGiven something => ?_
      rw [UpdateAsset.payload?_eq_some_iff.2 ⟨isGiven, something⟩] at given
      cases given
  exact .amended reads begun (isFailed_of_toCount counts) done (Statement.updateAsset_changes _ _ _) amended

/-- How an update ends whose attributes do not decode: with an objection to its other columns, with the trouble that the
store has with them, or else with an objection to the attributes. Whatever has been begun is rolled back. -/
inductive Declines (actor : Actor) (id : Uuid) (req : UpdateAsset) (existing : Asset) (why : Json.Mismatch)
    (replies : Nat → Reply) : List Event → Except ServiceError Unit → Prop
  | objected {message : String} : checkUpdate existing req.fields = .error (.validation message) →
      Declines actor id req existing why replies [(.statement (.findAsset id), replies 0)] (.error (.validation message))
  | notBegun {fault : Fault} : replies 1 = .failed fault →
      Declines actor id req existing why replies
        [(.statement (.findAsset id), replies 0), (.begin, replies 1), (.rollback, replies 2)]
        (.error (.ofStore (.ofFault fault)))
  | notWritten {fault : Fault} : (replies 1).isFailed = false → replies 2 = .failed fault →
      Declines actor id req existing why replies
        [(.statement (.findAsset id), replies 0), (.begin, replies 1),
          (.statement (.updateAsset id req.columns actor.userId), replies 2), (.rollback, replies 3)]
        (.error (.ofStore (.ofFault fault)))
  | missing : (replies 1).isFailed = false → (replies 2).toCount = .ok 0 →
      Declines actor id req existing why replies
        [(.statement (.findAsset id), replies 0), (.begin, replies 1),
          (.statement (.updateAsset id req.columns actor.userId), replies 2), (.rollback, replies 3)]
        (.error (assetNotFound id))
  | undecoded {count : Nat} : (replies 1).isFailed = false → (replies 2).toCount = .ok count →
      0 < count →
      Declines actor id req existing why replies
        [(.statement (.findAsset id), replies 0), (.begin, replies 1),
          (.statement (.updateAsset id req.columns actor.userId), replies 2), (.rollback, replies 3)]
        (.error (.validation (AttributesError.invalid existing.assetType why.message).message))

theorem validation_of_checkUpdate {existing : Asset} {fields : AssetPatch} {e : ServiceError}
    (fails : checkUpdate existing fields = .error e) : ∃ message, e = .validation message := by
  have refused {holds : Bool} {refusal : ServiceError} (fails : require holds refusal = .error e) : refusal = e := by
    cases holds with
    | true => cases fails
    | false => exact Except.error.inj fails
  unfold checkUpdate at fails
  rcases error_of_bind fails with numbered | ⟨_, -, fails⟩
  · exact ⟨_, (refused numbered).symm⟩
  rcases error_of_bind fails with ordered | ⟨_, -, fails⟩
  · exact ⟨_, (refused ordered).symm⟩
  · cases fails

/-- Attributes that do not decode are not written, and neither is anything else for good. -/
theorem outcome_writeUpdate_invalid {actor : Actor} {id : Uuid} {existing : Asset} {fields : AssetPatch} {payload : Json}
    {why : Json.Mismatch} {events : List Event} {result : Except ServiceError Unit}
    (invalid : AttributesPatch.ofPayload existing.assetType payload = .error why)
    (ends : (writeUpdate actor id existing fields (some payload)).Outcome events result) :
    ∃ reply, events = [(.statement (.updateAsset id fields actor.userId), reply)] ∧
      ((∃ fault, reply = .failed fault ∧ result = .error (.ofStore (.ofFault fault))) ∨
        (reply.toCount = .ok 0 ∧ result = .error (assetNotFound id)) ∨
        ∃ count, reply.toCount = .ok count ∧ 0 < count ∧
          result = .error (.validation (AttributesError.invalid existing.assetType why.message).message)) := by
  obtain ⟨reply, rest, rfl, ⟨fault, failed, rfl, same⟩ | ⟨none, rfl, same⟩ | ⟨count, counts, positive, writes⟩⟩ :=
    outcome_writeUpdate ends
  · exact ⟨reply, rfl, Or.inl ⟨fault, failed, same⟩⟩
  · exact ⟨reply, rfl, Or.inr (Or.inl ⟨none, same⟩)⟩
  · obtain ⟨inner, applies, rfl⟩ := outcome_mapError writes
    obtain ⟨rfl, rfl⟩ := outcome_apply_invalid invalid applies
    exact ⟨reply, rfl, Or.inr (Or.inr ⟨count, counts, positive, rfl⟩)⟩

theorem not_ok_of_invalid {actor : Actor} {id : Uuid} {existing : Asset} {fields : AssetPatch} {payload : Json}
    {why : Json.Mismatch} {events : List Event}
    (invalid : AttributesPatch.ofPayload existing.assetType payload = .error why) :
    ¬(writeUpdate actor id existing fields (some payload)).Outcome events (.ok ()) := by
  intro ends
  obtain ⟨reply, -, ⟨fault, -, fails⟩ | ⟨-, fails⟩ | ⟨count, -, -, fails⟩⟩ := outcome_writeUpdate_invalid invalid ends
  · cases fails
  · cases fails
  · cases fails

/-- Where the payload does not read, the transaction is rolled back with the reason, unless an earlier write was
refused. -/
theorem declines_of_settled {actor : Actor} {id : Uuid} {req : UpdateAsset} {replies : Nat → Reply} {existing : Asset}
    {payload : Json} {why : Json.Mismatch} {events : List Event} {result : Except ServiceError Unit}
    (invalid : AttributesPatch.ofPayload existing.assetType payload = .error why)
    (answers : ∀ i e, ((Message.statement (.findAsset id), replies 0) :: events)[i]? = some e → e.2 = replies i)
    (ends : (transaction .ofStore (writeUpdate actor id existing req.columns (some payload))).Outcome events result) :
    Declines actor id req existing why replies ((.statement (.findAsset id), replies 0) :: events) result := by
  cases result with
  | ok done =>
    obtain ⟨opened, sent, closed, -, -, works, -⟩ := outcome_transaction_ok ends
    exact absurd works (not_ok_of_invalid invalid)
  | error e =>
    rcases outcome_transaction_error ends with ⟨fault, undone, rfl, rfl⟩ | ⟨opened, sent, undone, begun, works, rfl⟩ |
      ⟨opened, sent, done, fault, undone, -, works, -, -⟩
    · have failed := answers 1 _ rfl
      obtain rfl := answers 2 _ rfl
      dsimp only at failed
      rw [failed]
      exact .notBegun failed.symm
    · obtain ⟨reply, rfl, ended⟩ := outcome_writeUpdate_invalid invalid works
      obtain rfl := answers 1 _ rfl
      obtain rfl := answers 2 _ rfl
      obtain rfl := answers 3 _ rfl
      rcases ended with ⟨fault, failed, same⟩ | ⟨none, same⟩ | ⟨count, counts, positive, same⟩
      · rw [same]
        exact .notWritten begun failed
      · rw [same]
        exact .missing begun none
      · rw [same]
        exact .undecoded begun counts positive
    · exact absurd works (not_ok_of_invalid invalid)

theorem declines_of_invalid {actor : Actor} {id : Uuid} {req : UpdateAsset} {replies : Nat → Reply} {row : Row}
    {rows : List Row} {existing : Asset} {payload : Json} {why : Json.Mismatch} (found : replies 0 = .rows (row :: rows))
    (reads : Asset.ofRow row = .ok existing) (given : req.payload? = some payload)
    (invalid : AttributesPatch.ofPayload existing.assetType payload = .error why) :
    Declines actor id req existing why replies ((update actor id req).run.against replies).1
      ((update actor id req).run.against replies).2 := by
  have ends : (update actor id req).Outcome ((update actor id req).run.against replies).1
      ((update actor id req).run.against replies).2 := outcome_against rfl
  have answers (i : Nat) (e : Event) (sent : ((update actor id req).run.against replies).1[i]? = some e) :
      e.2 = replies i := Dialogue.reply_of_getElem? sent
  generalize ((update actor id req).run.against replies).1 = events at ends answers ⊢
  generalize ((update actor id req).run.against replies).2 = result at ends ⊢
  unfold update at ends
  rw [given] at ends
  rcases outcome_bind ends with ⟨asset, _, rest, finds, afterFind, rfl⟩ | ⟨e, finds, rfl⟩
  · obtain ⟨reply, rfl, tells⟩ := outcome_find finds
    obtain rfl := answers 0 _ rfl
    obtain rfl := Except.ok.inj ((tells existing).2 ⟨row, rows, found, reads⟩)
    rcases outcome_bind afterFind with ⟨fields, _, rest, checks, settles, rfl⟩ | ⟨e, checks, rfl⟩
    · obtain ⟨rfl, checked⟩ := outcome_ofExcept checks
      obtain rfl := columns_of_checkUpdate checked
      exact declines_of_settled invalid answers settles
    · obtain ⟨rfl, fails⟩ := outcome_ofExcept checks
      obtain ⟨message, rfl⟩ := validation_of_checkUpdate fails
      exact .objected fails
  · obtain ⟨reply, rfl, tells⟩ := outcome_find finds
    obtain rfl := answers 0 _ rfl
    cases (tells existing).2 ⟨row, rows, found, reads⟩

/-- Where the store does its part, all of the trouble is in the request. -/
theorem Declines.validation {actor : Actor} {id : Uuid} {req : UpdateAsset} {existing : Asset} {why : Json.Mismatch}
    {replies : Nat → Reply} {events : List Event} {result : Except ServiceError Unit}
    (declines : Declines actor id req existing why replies events result) (begun : (replies 1).isFailed = false)
    {count : Nat} (counts : (replies 2).toCount = .ok (count + 1)) : ∃ message, result = .error (.validation message) := by
  cases declines with
  | objected refused => exact ⟨_, rfl⟩
  | notBegun failed =>
    rw [failed] at begun
    cases begun
  | notWritten _ failed =>
    rw [failed] at counts
    cases counts
  | missing _ none =>
    rw [none] at counts
    cases counts
  | undecoded _ _ _ => exact ⟨_, rfl⟩

/-- An update that succeeds touches what the request gives and nothing else. One whose attributes do not decode for the
type of the asset leaves nothing behind, and is not valid to a store that does its part. Other keys of a request do not
count. -/
theorem amendment_sent (actor : Actor) (id : Uuid) (req : UpdateAsset) (replies : Nat → Reply) :
    (((update actor id req).run.against replies).2 = .ok () →
      Amends actor id req ((update actor id req).run.against replies).1) ∧
    (∀ row rows existing payload why, replies 0 = .rows (row :: rows) → Asset.ofRow row = .ok existing →
      req.specs = some payload → payload ≠ .null →
      AttributesPatch.ofPayload existing.assetType payload = .error why →
      Declines actor id req existing why replies ((update actor id req).run.against replies).1
          ((update actor id req).run.against replies).2 ∧
        ∀ count, (replies 1).isFailed = false → (replies 2).toCount = .ok (count + 1) →
          ∃ message, ((update actor id req).run.against replies).2 = .error (.validation message)) ∧
    ∀ specs entries, UpdateAsset.ofEntries specs (entries.filter AssetPatch.record.names) =
      UpdateAsset.ofEntries specs entries := by
  refine ⟨fun succeeds => amends_of_ok (outcome_against succeeds), ?_, fun specs entries => ?_⟩
  · intro row rows existing payload why found reads isGiven something invalid
    have given := UpdateAsset.payload?_eq_some_iff.2 ⟨isGiven, something⟩
    have declines : Declines actor id req existing why replies _ _ := declines_of_invalid found reads given invalid
    exact ⟨declines, fun count begun counts => declines.validation begun counts⟩
  · unfold UpdateAsset.ofEntries AssetPatch.ofEntries
    rw [Json.Record.ofEntries_known]

theorem isDate_bought : IsDate 2024 6 1 := by
  decide

/-- A mouse, and what is asked of it: another owner, another resolution, and a column that mice do not have. -/
def mouseRow : Row :=
  Tables.assetRow (.ofNat 7)
    { data :=
        { modelId := .ofNat 5, specsId := .ofNat 6, serialNo := "SN-1", ownedBy := .client,
          purchasedDate := ⟨2024, 6, 1, isDate_bought⟩, warrantyStart := none, warrantyEnd := none, createdBy := .ofNat 1 }
      createdAt := ⟨0⟩ }
    { modelName := "M720", assetType := .mouse, brandId := .ofNat 3, brandName := "Acme" } none

/-- The owner is changed, and of the attributes one column; the other name is no column of a mouse. -/
def mouseUpdate (resolution : Json) : UpdateAsset where
  fields :=
    { serialNo := none, ownedBy := some .remoteState, purchasedDate := none, warrantyStart := none, warrantyEnd := none }
  specs := some (.object [("dpi", resolution), ("type", .null), ("colour", .text "grey")])

/-- The store finds the mouse and takes everything. -/
def mouseAnswers : Nat → Reply
  | 0 => .rows [mouseRow]
  | _ => .affected 1

/-- A resolution that reads is written; one that does not is declined. -/
theorem mouse_amended :
    (((update ⟨.ofNat 1, .assetManager⟩ (.ofNat 7) (mouseUpdate (.whole 1600))).run.against mouseAnswers).2 = .ok () ∧
      Amends ⟨.ofNat 1, .assetManager⟩ (.ofNat 7) (mouseUpdate (.whole 1600))
        ((update ⟨.ofNat 1, .assetManager⟩ (.ofNat 7) (mouseUpdate (.whole 1600))).run.against mouseAnswers).1) ∧
    ∃ message, ((update ⟨.ofNat 1, .assetManager⟩ (.ofNat 7) (mouseUpdate (.text "high"))).run.against mouseAnswers).2 =
      .error (.validation message) := by
  have succeeds : ((update ⟨.ofNat 1, .assetManager⟩ (.ofNat 7) (mouseUpdate (.whole 1600))).run.against mouseAnswers).2 =
      .ok () := rfl
  obtain ⟨-, declines, -⟩ := amendment_sent ⟨.ofNat 1, .assetManager⟩ (.ofNat 7) (mouseUpdate (.text "high")) mouseAnswers
  refine ⟨⟨succeeds, (amendment_sent _ _ _ _).1 succeeds⟩, ?_⟩
  exact (declines mouseRow [] _ _ _ rfl (Tables.ofRow_assetRow _ _ _ _) rfl nofun rfl).2 0 rfl rfl

/-- The mouse is also to have a number that another asset has, as the store answers. -/
def mouseRenumbering : UpdateAsset :=
  { mouseUpdate (.text "high") with
    fields := { (mouseUpdate (.text "high")).fields with serialNo := some "SN-2" } }

/-- The store finds the mouse, but its serial number has been taken. -/
def numberTaken : Nat → Reply
  | 0 => .rows [mouseRow]
  | 2 => .failed { code := uniqueViolation, message := "duplicate key", constraint := some "assets_serial_no_key" }
  | _ => .affected 1

/-- The columns of the asset are written before its attributes are read, so that it is their conflict that is told. -/
theorem mouse_number_taken :
    ∃ existing payload why, numberTaken 0 = .rows [mouseRow] ∧ Asset.ofRow mouseRow = .ok existing ∧
      mouseRenumbering.specs = some payload ∧ payload ≠ .null ∧
      AttributesPatch.ofPayload existing.assetType payload = .error why ∧
      ∀ message, ((update ⟨.ofNat 1, .assetManager⟩ (.ofNat 7) mouseRenumbering).run.against numberTaken).2 ≠
        .error (.validation message) := by
  have conflict : ((update ⟨.ofNat 1, .assetManager⟩ (.ofNat 7) mouseRenumbering).run.against numberTaken).2 =
      .error (.conflict "an asset with this serial number already exists") := rfl
  refine ⟨_, _, _, rfl, Tables.ofRow_assetRow _ _ _ _, rfl, nofun, rfl, fun message => ?_⟩
  rw [conflict]
  nofun

end Assets
end AssetRegistry
