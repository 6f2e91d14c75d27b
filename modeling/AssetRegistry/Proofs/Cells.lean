import AssetRegistry.Proofs.Overlays
import AssetRegistry.Proofs.Targets

namespace AssetRegistry.Store

/-- The words that say which rows are meant. -/
def Command.key : Command → List Word
  | .update _ _ key | .select _ _ key => key
  | .insert _ _ _ | .other => []

namespace Statement

/-- The columns that the text gives arguments to, each with its argument. -/
def cells (q : Statement) : List (Word × Value) :=
  q.command.places.filterMap fun place => (q.args[place.2]?).map (place.1, ·)

/-- The argument that the text compares the identifier of rows with. -/
def key? (q : Statement) : Option Value :=
  match q.command.key.take 3 with
  | [column, sign, value] => if column = "id".toList ∧ sign = ['='] then argument? q.args value else none
  | _ => none

/-- The statement adds a row to the table, gives these columns these values, and binds nothing else. -/
structure Inserts (q : Statement) (table : String) (cells : List (String × Value)) : Prop where
  into : q.command.InsertsInto table
  gives : q.cells = cells.map fun cell => (cell.1.toList, cell.2)
  binds : q.args = cells.map (·.2)

/-- The statement changes the row of the table that has the identifier, gives these columns these values, and binds nothing
else. -/
structure Changes (q : Statement) (table : String) (id : Uuid) (cells : List (String × Value)) : Prop where
  table : q.command.Updates table
  key : q.key? = some (.uuid id)
  gives : q.cells = cells.map fun cell => (cell.1.toList, cell.2)
  binds : q.args.Perm (.uuid id :: cells.map (·.2))

/-- The cells of a fixed text are the columns that it is known to fill. -/
theorem cells_of_fills {q : Statement} {w : Write} {fills : List (String × Nat)} (writes : q.write? = some w)
    (fixed : q.fills? = some fills) :
    q.cells = fills.filterMap fun fill => (q.args[fill.2]?).map (fill.1.toList, ·) := by
  rw [cells, (reads_fixed writes fixed).2, List.filterMap_map]
  rfl

/-- A statement with a fixed text inserts what its columns say. -/
theorem inserts_of_fills {q : Statement} (target : Target) {fills : List (String × Nat)} {cells : List (String × Value)}
    (writes : q.write? = some (.insertion target)) (fixed : q.fills? = some fills) (args : q.args = cells.map (·.2))
    (told : (fills.filterMap fun fill => (q.args[fill.2]?).map (fill.1.toList, ·)) =
      cells.map fun cell => (cell.1.toList, cell.2)) : q.Inserts target.table cells where
  into := (reads_fixed writes fixed).1
  gives := (cells_of_fills writes fixed).trans told
  binds := args

/-- A statement with a fixed text changes what its columns say, in the row that its text compares with. -/
theorem changes_of_fills {q : Statement} (target : Target) {fills : List (String × Nat)} {id : Uuid}
    {cells : List (String × Value)} (writes : q.write? = some (.change target)) (fixed : q.fills? = some fills)
    (key : q.key? = some (.uuid id)) (args : q.args.Perm (.uuid id :: cells.map (·.2)))
    (told : (fills.filterMap fun fill => (q.args[fill.2]?).map (fill.1.toList, ·)) =
      cells.map fun cell => (cell.1.toList, cell.2)) : q.Changes target.table id cells where
  table := (reads_fixed writes fixed).1
  key := key
  gives := (cells_of_fills writes fixed).trans told
  binds := args

theorem insertAsset_inserts (asset : NewAsset) :
    (insertAsset asset).Inserts "assets"
      [("model_id", .uuid asset.modelId), ("specs_id", .uuid asset.specsId), ("serial_no", .text asset.serialNo),
        ("owned_by", .ofLabel asset.ownedBy), ("purchased_date", .date asset.purchasedDate),
        ("warranty_start_date", .ofOption .date asset.warrantyStart),
        ("warranty_exp_date", .ofOption .date asset.warrantyEnd), ("created_by", .uuid asset.createdBy)] :=
  inserts_of_fills .assets rfl rfl rfl rfl

/-- A status is recorded without a user. -/
theorem recordStatus_inserts (assetId : Uuid) (status : AssetStatus) :
    (recordStatus assetId status).Inserts "asset_status" [("asset_id", .uuid assetId), ("status", .ofLabel status)] :=
  inserts_of_fills .ledger rfl rfl rfl rfl

theorem key_of_spelled {q : Statement} {cs : List Char} {key : List Word} (spelled : q.text.toList = cs)
    (reads : (Command.ofWords (words cs)).key.take 3 = key) : q.command.key.take 3 = key :=
  reads_of_spelled (fun c => c.key.take 3 = key) spelled reads

theorem key?_of_key {q : Statement} {n : Nat}
    (key : q.command.key.take 3 = ["id".toList, ['='], (Query.placeholder (n + 1)).toList]) : q.key? = q.args[n]? := by
  unfold key?
  rw [key]
  dsimp only
  rw [if_pos ⟨rfl, rfl⟩, argument?_placeholder]

set_option maxRecDepth 4000 in
theorem key_updateAsset (id : Uuid) (patch : AssetPatch) (updatedBy : Uuid) :
    (updateAsset id patch updatedBy).key? = some (.uuid id) := by
  have key : (updateAsset id patch updatedBy).command.key.take 3 = ["id".toList, ['='], "$1".toList] :=
    key_of_spelled
      (by
        unfold text
        exact spelled_append (spelled_append (spelled_append (spelled_append String.toList_ofList String.toList_ofList)
          String.toList_ofList) String.toList_ofList) String.toList_ofList) (by decide +kernel)
  exact key?_of_key (n := 0) key

/-- Each column of an asset gets the value of the patch, or null where it has none. -/
theorem updateAsset_changes (id : Uuid) (patch : AssetPatch) (updatedBy : Uuid) :
    (updateAsset id patch updatedBy).Changes "assets" id
      [("serial_no", .ofOption .text patch.serialNo), ("owned_by", .ofOption .ofLabel patch.ownedBy),
        ("purchased_date", .ofOption .date patch.purchasedDate),
        ("warranty_start_date", .ofOption .date patch.warrantyStart),
        ("warranty_exp_date", .ofOption .date patch.warrantyEnd), ("updated_by", .uuid updatedBy)] :=
  changes_of_fills .assets rfl rfl (key_updateAsset id patch updatedBy) (.refl _) rfl

/-- The values that follow upon some columns are the next arguments. -/
theorem cells_of_placeholders {args : List Value} {columns : List Word} {start : Nat} (more : List Word)
    (enough : start + columns.length ≤ args.length) :
    ((columns.zip ((placeholders start columns.length).map String.toList ++ more)).filterMap fun (column, value) =>
        (slot? value).map (column, ·)).filterMap (fun place => (args[place.2]?).map (place.1, ·)) =
      columns.zip (args.drop start) := by
  induction columns generalizing start with
  | nil => rfl
  | cons column columns ih =>
    rw [List.length_cons] at enough
    have here : start < args.length := by omega
    have rest := ih (by omega : start + 1 + columns.length ≤ args.length)
    rw [List.length_cons, placeholders_succ, List.map_cons, List.cons_append, List.zip_cons_cons, List.filterMap_cons,
      List.drop_eq_getElem_cons here, List.zip_cons_cons, ← rest]
    dsimp only
    rw [slot?_placeholder]
    dsimp only [Option.map_some]
    rw [List.filterMap_cons]
    dsimp only
    rw [List.getElem?_eq_getElem here]
    rfl

theorem changedPlaces_slot (column : Word) (n : Nat) {ws : List Word} (other : ws.head? ≠ some ['=']) :
    changedPlaces column ((Query.placeholder (n + 1)).toList :: ws) = (column, n) :: changedPlaces column ws := by
  cases ws with
  | nil =>
    rw [changedPlaces, slot?_placeholder]
    rfl
  | cons next rest =>
    have differs : next ≠ ['='] := by simpa using other
    rw [changedPlaces, if_neg differs, slot?_placeholder]
    rfl

/-- In a sequence of equations each column gets the next argument. -/
theorem cells_of_equations {args : List Value} {names : List String} {start : Nat} (column : Word)
    (plain : ∀ name ∈ names, name.toList ≠ ['=']) (enough : start + names.length ≤ args.length) :
    (changedPlaces column ((names.zip (placeholders start names.length)).flatMap
        fun (name, slot) => [name.toList, ['='], slot.toList])).filterMap
        (fun place => (args[place.2]?).map (place.1, ·)) =
      (names.map String.toList).zip (args.drop start) := by
  induction names generalizing start column with
  | nil => rfl
  | cons name names ih =>
    rw [List.length_cons] at enough
    have here : start < args.length := by omega
    have rest := ih name.toList (fun other member => plain other (List.mem_cons_of_mem _ member))
      (by omega : start + 1 + names.length ≤ args.length)
    have next : ((names.zip (placeholders (start + 1) names.length)).flatMap
        fun (name, slot) => [name.toList, ['='], slot.toList]).head? ≠ some ['='] := by
      cases names with
      | nil => simp
      | cons second more =>
        rw [List.length_cons, placeholders_succ]
        simpa using plain second (by simp)
    rw [List.length_cons, placeholders_succ, List.zip_cons_cons, List.flatMap_cons, List.map_cons,
      List.drop_eq_getElem_cons here, List.zip_cons_cons, ← rest]
    dsimp only [List.cons_append, List.nil_append]
    rw [changedPlaces, if_pos rfl, changedPlaces_slot _ _ next, List.filterMap_cons]
    dsimp only
    rw [List.getElem?_eq_getElem here]
    rfl

end Statement
end AssetRegistry.Store

namespace AssetRegistry
open Store

theorem Specs.column_ne_sign {t : AssetType} {column : Column} (member : column ∈ columns t) :
    column.name.toList ≠ ['='] := by
  revert column
  cases t <;> decide +kernel

/-- All columns of the type's table get a value. -/
theorem Attributes.inserts (a : Attributes) :
    (Statement.insertAttributes a).Inserts (Specs.table a.type) (((Specs.columns a.type).map (·.name)).zip a.args) := by
  have count : a.args.length = (Specs.columns a.type).length := Specs.Values.length_toArgs _ _
  have enough : 0 + (Sheets.columnWords a.type).length ≤ a.args.length := by
    rw [Sheets.length_columnWords, count]
    omega
  refine ⟨by rw [insertAttributes_command]; rfl, ?_, ?_⟩
  · unfold Statement.cells
    rw [insertAttributes_command, Command.places, ← Sheets.length_columnWords, Sheets.columnWords_eq]
    refine (Statement.cells_of_placeholders _ enough).trans ?_
    rw [List.drop_zero, Sheets.columnWords, List.zip_map_left]
    rfl
  · have lengths : a.args.length ≤ ((Specs.columns a.type).map (·.name)).length := by
      rw [List.length_map]
      exact Nat.le_of_eq count
    exact (List.map_snd_zip lengths).symm

/-- The columns that change get their values, in the row with the identifier. -/
theorem AttributesPatch.changes_row (p : AttributesPatch) (id : Uuid) :
    (Statement.updateAttributes p id).Changes (Specs.table p.type) id p.assignments := by
  have count : p.changedColumns.length = p.assignments.length := List.length_map _
  have enough : 0 + p.changedColumns.length ≤ (p.assignments.map (·.2) ++ [Value.uuid id]).length := by
    rw [count, List.length_append, List.length_map]
    omega
  have plain : ∀ name ∈ p.changedColumns, name.toList ≠ ['='] := by
    intro name member same
    obtain ⟨column, among, rfl⟩ := Specs.Changes.mem_columns member
    exact Specs.column_ne_sign among same
  have names : p.changedColumns.map String.toList = p.assignments.map (·.1.toList) := List.map_map
  refine ⟨by rw [updateAttributes_command]; rfl, ?_, ?_, ?_⟩
  · have key : (p.assignments.map (·.2) ++ [Value.uuid id])[p.changedColumns.length]? = some (.uuid id) := by
      rw [count]
      simp
    refine (Statement.key?_of_key ?_).trans key
    rw [updateAttributes_command]
    rfl
  · unfold Statement.cells
    rw [updateAttributes_command, Command.places]
    refine (Statement.cells_of_equations [] plain enough).trans ?_
    rw [names, List.drop_zero, zip_pairs]
  · exact List.perm_append_singleton _ _

end AssetRegistry
