import AssetRegistry.Proofs.Amendments
import AssetRegistry.Proofs.Protocol

namespace AssetRegistry
open Store Service Exchange

/-- What is parsed is the label without blanks around it. -/
theorem label_of_parse {α : Type} [Vocabulary α] {tag : String} {a : α} (parses : Vocabulary.parse tag = .ok a) :
    label a = Text.trim tag := by
  unfold Vocabulary.parse at parses
  split at parses
  next found =>
    obtain rfl := Except.ok.inj parses
    simpa using List.find?_some found
  next => cases parses

namespace Assets

/-- What is registered is what the request says. -/
theorem registration_of_checkCreate {req : CreateAsset} {r : Registration} (checked : checkCreate req = .ok r) :
    ∃ purchased t, req.purchasedDate = some purchased ∧ label t = Text.trim req.model.assetType ∧
      r = { serialNo := Text.trim req.serialNo, purchasedDate := purchased, brandName := Text.trim req.model.brand.name,
            modelName := Text.trim req.model.name, status := req.status.getD .available, assetType := t } := by
  unfold checkCreate at checked
  obtain ⟨_, -, checked⟩ := ok_of_bind checked
  cases date : req.purchasedDate with
  | none =>
    rw [date] at checked
    cases checked
  | some purchased =>
    rw [date] at checked
    obtain ⟨_, -, checked⟩ := ok_of_bind checked
    obtain ⟨_, -, checked⟩ := ok_of_bind checked
    obtain ⟨status, initial, checked⟩ := ok_of_bind checked
    obtain ⟨t, resolves, checked⟩ := ok_of_bind checked
    obtain ⟨-, rfl⟩ := initialStatus_eq_ok.1 initial
    have parses := ok_of_mapError (ok_of_mapError resolves)
    exact ⟨purchased, t, rfl, label_of_parse parses, (Except.ok.inj checked).symm⟩

/-- What is sent and answered when an asset has been registered under the identifier. The one type chooses the model and
the table of the attributes; each statement is given the identifiers that the statements before it were answered. -/
inductive Registers (actor : Actor) (req : CreateAsset) (id : Uuid) : List Event → Prop
  | bundle {opened entered closed : Reply} {t : AssetType} {brand : Brand} {model : Model} {attributes : Attributes}
      {asset : NewAsset} {status : AssetStatus} {purchased : Date} {specsId : Uuid} {brandEvents modelEvents : List Event}
      {specsRow assetRow : Row} {specsRows assetRows : List Row} :
      opened.isFailed = false → entered.isFailed = false → closed.isFailed = false →
      label t = Text.trim req.model.assetType →
      Obtained (.findBrand (Text.trim req.model.brand.name)) (.insertBrand (Text.trim req.model.brand.name)) Brand.ofRow
        brand brandEvents →
      Obtained (.findModel (Text.trim req.model.name) brand.id t) (.insertModel (Text.trim req.model.name) brand.id t)
        Model.ofRow model modelEvents →
      (∀ e ∈ modelEvents, ∃ q, e.1 = .statement q ∧
        q.args = [.text (Text.trim req.model.name), .uuid brand.id, .ofLabel t]) →
      Attributes.ofPayload t req.specs = .ok attributes →
      (Statement.insertAttributes attributes).Inserts (Specs.table t)
        (((Specs.columns t).map (·.name)).zip attributes.args) →
      (∀ i c, (Specs.columns t)[i]? = some c → ∃ j v, Specs.given? req.specs i c = some j ∧
        c.kind.decoder.ofJson j = .ok v ∧ attributes.args[i]? = some (c.kind.toValue v)) →
      Row.scalar .uuid specsRow = .ok specsId →
      req.purchasedDate = some purchased →
      (Statement.insertAsset asset).Inserts "assets"
        [("model_id", .uuid model.id), ("specs_id", .uuid specsId), ("serial_no", .text (Text.trim req.serialNo)),
          ("owned_by", .ofLabel req.ownedBy), ("purchased_date", .date purchased),
          ("warranty_start_date", .ofOption .date req.warrantyStart),
          ("warranty_exp_date", .ofOption .date req.warrantyEnd), ("created_by", .uuid actor.userId)] →
      Row.scalar .uuid assetRow = .ok id →
      (Statement.recordStatus id status).Inserts "asset_status"
        [("asset_id", .uuid id), ("status", .ofLabel (req.status.getD .available))] →
      Registers actor req id
        ((.begin, opened) :: (brandEvents ++ (modelEvents ++
          [(.statement (.insertAttributes attributes), .rows (specsRow :: specsRows)),
            (.statement (.insertAsset asset), .rows (assetRow :: assetRows)),
            (.statement (.recordStatus id status), entered), (.commit, closed)])))

/-- Attributes that are made have been read from their payload, and inserted with one statement. -/
theorem outcome_createAttributes {t : AssetType} {payload : Json} {events : List Event} {id : Uuid}
    (ends : (Attributes.create t payload).Outcome events (.ok id)) :
    ∃ attributes row rows, Attributes.ofPayload t payload = .ok attributes ∧
      events = [(.statement (.insertAttributes attributes), .rows (row :: rows))] ∧ Row.scalar .uuid row = .ok id := by
  obtain ⟨attributes, _, _, checks, inserts, rfl⟩ := outcome_bind_ok ends
  obtain ⟨rfl, checked⟩ := outcome_ofExcept checks
  obtain ⟨row, rows, rfl, reads⟩ := outcome_fetchOne_ok (outcome_mapError_ok inserts)
  exact ⟨attributes, row, rows, ok_of_mapError checked, rfl, reads⟩

/-- Whoever is told that an asset is registered has sent one bundle for it, in one transaction. -/
theorem registration_sent {actor : Actor} {req : CreateAsset} {replies : Nat → Reply} {id : Uuid}
    (succeeds : ((create actor req).run.against replies).2 = .ok id) :
    Registers actor req id ((create actor req).run.against replies).1 := by
  have ends := outcome_against succeeds
  generalize ((create actor req).run.against replies).1 = events at ends
  obtain ⟨r, _, _, checks, settles, rfl⟩ := outcome_bind_ok ends
  obtain ⟨rfl, checked⟩ := outcome_ofExcept checks
  obtain ⟨purchased, t, date, named, rfl⟩ := registration_of_checkCreate checked
  obtain ⟨opened, sent, closed, begun, done, works, rfl⟩ := outcome_transaction_ok settles
  unfold register at works
  obtain ⟨brand, brandEvents, _, brands, afterBrand, rfl⟩ := outcome_bind_ok works
  obtain ⟨model, modelEvents, _, models, afterModel, rfl⟩ := outcome_bind_ok afterBrand
  obtain ⟨specsId, _, _, specs, afterSpecs, rfl⟩ := outcome_bind_ok afterModel
  obtain ⟨assetId, _, _, assets, afterAsset, rfl⟩ := outcome_bind_ok afterSpecs
  obtain ⟨entry, _, _, entries, finishes, rfl⟩ := outcome_bind_ok afterAsset
  obtain ⟨rfl, same⟩ := outcome_pure finishes
  obtain rfl := Except.ok.inj same
  have gotBrand := obtained (outcome_mapError_ok brands)
  have gotModel := obtained (outcome_mapError_ok models)
  obtain ⟨attributes, specsRow, specsRows, payload, rfl, specsRead⟩ := outcome_createAttributes (outcome_mapError_ok specs)
  obtain ⟨assetRow, assetRows, rfl, assetRead⟩ := outcome_fetchOne_ok (outcome_mapError_ok assets)
  obtain ⟨entryRow, entryRows, rfl, -⟩ := outcome_fetchOne_ok (outcome_mapError_ok entries)
  obtain ⟨sameType, columns⟩ := Attributes.args_of_payload payload
  have specsInsert := attributes.inserts
  rw [sameType] at specsInsert
  have bound : ∀ e ∈ modelEvents, ∃ q, e.1 = .statement q ∧
      q.args = [.text (Text.trim req.model.name), .uuid brand.id, .ofLabel t] := by
    intro e member
    rcases gotModel.mem member with same | same
    · exact ⟨_, same, rfl⟩
    · exact ⟨_, same, rfl⟩
  simp only [List.nil_append, List.append_assoc, List.cons_append]
  exact .bundle begun rfl done named gotBrand gotModel bound payload specsInsert columns specsRead date
    (Statement.insertAsset_inserts _) assetRead (Statement.recordStatus_inserts _ _)

/-- The request of a mouse, with blanks about its texts. -/
def mouseRequest : CreateAsset where
  model := { name := " M720 ", assetType := "mouse ", brand := { name := " Acme" } }
  serialNo := " SN-1 "
  ownedBy := .client
  purchasedDate := some ⟨2024, 6, 1, isDate_bought⟩
  warrantyStart := none
  warrantyEnd := some ⟨2026, 6, 1, by decide⟩
  specs := mousePayload
  status := none

/-- Someone else inserts the brand between the look-up and the insertion; the model is new. -/
def mouseReplies : Nat → Reply
  | 3 => .rows [[("id", .uuid (.ofNat 3)), ("name", .text "ACME")]]
  | 5 => .rows [[("id", .uuid (.ofNat 5)), ("name", .text "M720"), ("asset_type", .ofLabel AssetType.mouse),
      ("brand_id", .uuid (.ofNat 3))]]
  | 6 => .rows [[("id", .uuid (.ofNat 6))]]
  | 7 => .rows [[("id", .uuid (.ofNat 7))]]
  | 8 => .rows [Tables.entryRow (.ofNat 8)
      { data := { assetId := .ofNat 7, status := .available, assignedTo := none }, createdAt := ⟨0⟩, archivedAt := none }]
  | 1 | 2 | 4 => .rows []
  | _ => .affected 0

/-- A mouse is registered under the identifiers that the store gives. -/
theorem mouse_registered :
    ((create ⟨.ofNat 1, .assetManager⟩ mouseRequest).run.against mouseReplies).2 = .ok (.ofNat 7) ∧
      Registers ⟨.ofNat 1, .assetManager⟩ mouseRequest (.ofNat 7)
        ((create ⟨.ofNat 1, .assetManager⟩ mouseRequest).run.against mouseReplies).1 := by
  have succeeds : ((create ⟨.ofNat 1, .assetManager⟩ mouseRequest).run.against mouseReplies).2 = .ok (.ofNat 7) := by
    rfl
  exact ⟨succeeds, registration_sent succeeds⟩

end Assets
end AssetRegistry
