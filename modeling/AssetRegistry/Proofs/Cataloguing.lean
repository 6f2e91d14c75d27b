import AssetRegistry.Catalogue.Register
import AssetRegistry.Proofs.Overlays
import Mathlib.Data.List.Nodup

namespace AssetRegistry.Store

/-- A column, and whether case matters in it. -/
structure Compared where
  column : Word
  folds : Bool
  deriving DecidableEq

/-- What of a value is compared. -/
def Compared.seen (c : Compared) (lower : String → String) : Value → Value
  | .text s => .text (if c.folds then lower s else s)
  | v => v

/-- A table whose rows have a type: its name, the columns of its unique index, what stands under the columns of a row, and
the row that some given columns make with a new identifier. -/
structure Layout (ρ : Type) where
  table : String
  index : List Compared
  cells : ρ → List (Word × Value)
  make : Uuid → List (Word × Value) → Option ρ

/-- The rows of the table, and those of them that the caller has added. -/
structure Shelf (ρ : Type) where
  rows : List ρ
  own : List ρ := []

/-- A condition on one column: it shows the value, as far as it is compared. -/
def condition? (args : List Value) : List Word → Option (Compared × Value)
  | [column, sign, value] => if sign = ['='] then (argument? args value).map (⟨column, false⟩, ·) else none
  | [fold, column, sign, fold', value] =>
    if fold = "lower".toList ∧ sign = ['='] ∧ fold' = "lower".toList then (argument? args value).map (⟨column, true⟩, ·)
    else none
  | _ => none

/-- Conditions that all have to hold. -/
def conditions? (args : List Value) (key : List Word) : Option (List (Compared × Value)) :=
  (Text.splitAll "AND".toList key).mapM (condition? args)

/-- The columns that a new row is given, and the columns that are asked of it, if the index has room for it. -/
def offered? (args : List Value) : (columns values : List Word) → Option (List (Word × Value) × List Word)
  | [], rest =>
    if rest.take 5 = ["ON".toList, "CONFLICT".toList, "DO".toList, "NOTHING".toList, "RETURNING".toList] then
      some ([], rest.drop 5)
    else none
  | column :: columns, value :: values => do
    let v ← argument? args value
    let (given, asked) ← offered? args columns values
    some ((column, v) :: given, asked)
  | _ :: _, [] => none

namespace Layout
variable {ρ : Type} (L : Layout ρ) (lower : String → String)

/-- What a row says in a column. -/
def cell (row : ρ) (column : Word) : Option Value := (L.cells row).lookup column

/-- A row with all its columns. -/
def row (row : ρ) : Row := (L.cells row).map fun cell => (String.ofList cell.1, cell.2)

/-- What the index sees of a row. -/
def key (row : ρ) : List (Option Value) := L.index.map fun c => (L.cell row c.column).map (c.seen lower)

/-- No two rows are the same to the index. -/
def Unique (rows : List ρ) : Prop := (rows.map (L.key lower)).Nodup

/-- The row fits all that is compared. -/
def meets (row : ρ) (wanted : List (Compared × Value)) : Bool :=
  wanted.all fun (c, v) => (L.cell row c.column).map (c.seen lower) = some (c.seen lower v)

/-- The columns of a row that are asked for. -/
def show? (columns : List Word) (row : ρ) : Option Row :=
  columns.mapM fun column => (L.cell row column).map (String.ofList column, ·)

/-- Carries out a statement as its text says, if that makes sense: the reply, and the row that it adds. A row that the index
has no room for is not added. -/
def carryOut? (rows : List ρ) (new : Uuid) (q : Statement) : Option (Reply × Option ρ) :=
  match q.command with
  | .select columns table key => do
    let wanted ← conditions? q.args key
    let found ← (rows.filter (L.meets lower · wanted)).mapM (L.show? columns)
    if table = L.table.toList then some (.rows found, none) else none
  | .insert table columns values => do
    let (given, asked) ← offered? q.args columns values
    let row ← L.make new given
    let shown ← L.show? asked row
    if table ≠ L.table.toList then none
    else if L.key lower row ∈ rows.map (L.key lower) then some (.rows [], none)
    else some (.rows [shown], some row)
  | .update _ _ _ | .other => none

/-- What the text of a statement is answered, and the row that it adds. -/
def answer (rows : List ρ) (new : Uuid) (q : Statement) : Reply × Option ρ :=
  (L.carryOut? lower rows new q).getD (Sheets.refused, none)

/-- Only statements have answers of their own. -/
def react (rows : List ρ) (new : Uuid) : Message → Reply × Option ρ
  | .statement q => L.answer lower rows new q
  | .begin | .commit | .rollback => (.affected 0, none)

end Layout

/-- The table among other sessions. It takes messages as long as its index holds. Before each message others may have
committed rows that the index has room for, and nothing is ever taken away; a new row gets any identifier. -/
def Layout.among {ρ : Type} (L : Layout ρ) (lower : String → String) : Peer (Shelf ρ) where
  accepts s _ := L.Unique lower s.rows
  answers s m reply after := ∃ rows new added, s.rows ⊆ rows ∧ L.Unique lower rows ∧
    L.react lower rows new m = (reply, added) ∧ after = { rows := added.toList ++ rows, own := added.toList ++ s.own }

/-- Asking for a row settles which one it is: it is there afterwards, and nothing but it has been added. Asking again for the
same, whatever others have done in between and do meanwhile, finds it and adds nothing. -/
def Layout.Settles {ρ κ : Type} (L : Layout ρ) (lower : String → String) (ask : κ → Exchange StoreError ρ)
    (names : κ → ρ → Prop) (k : κ) (rows : List ρ) : Prop :=
  (ask k).Ensures (L.among lower) { rows }
    (fun row s => row ∈ s.rows ∧ names k row ∧ L.Unique lower s.rows ∧ (s.own = [] ∨ s.own = [row]) ∧
      ∀ k' later, names k' row → s.rows ⊆ later → L.Unique lower later →
        (ask k').Ensures (L.among lower) { rows := later }
          (fun again s' => again = row ∧ s'.own = [] ∧ L.Unique lower s'.rows) fun _ _ => False)
    fun _ _ => False

/-- Two statements look up and insert the row with a key, and its rows are read back. -/
structure Layout.Keeps {ρ : Type} (L : Layout ρ) (lower : String → String) (find insert : Statement) (read : RowReader ρ)
    (key : List (Option Value)) (made : Uuid → ρ) : Prop where
  finds : ∀ rows new, L.answer lower rows new find =
    (.rows ((rows.filter fun row => L.key lower row = key).map L.row), none)
  inserts : ∀ rows new, L.answer lower rows new insert =
    if key ∈ rows.map (L.key lower) then (.rows [], none) else (.rows [L.row (made new)], some (made new))
  reads : ∀ row, read (L.row row) = .ok row
  made : ∀ new, L.key lower (made new) = key

/-- What a look-up tells about the rows. -/
def Layout.Tells {ρ : Type} (L : Layout ρ) (lower : String → String) (key : List (Option Value)) (rows : List ρ) :
    Option ρ → Prop
  | some row => row ∈ rows ∧ L.key lower row = key
  | none => key ∉ rows.map (L.key lower)

namespace Layout
variable {ρ : Type} {L : Layout ρ} {lower : String → String} {s : Shelf ρ}

theorem eq_of_key {rows : List ρ} (unique : L.Unique lower rows) {row other : ρ} (member : row ∈ rows)
    (among : other ∈ rows) (same : L.key lower row = L.key lower other) : row = other :=
  List.inj_on_of_nodup_map unique member among same

/-- One statement, whatever rows others have committed before it is taken. -/
theorem ensures_single {ε α : Type} {q : Statement} {read : Reply → Except ε α} {ok : α → Shelf ρ → Prop}
    {error : ε → Shelf ρ → Prop} (unique : L.Unique lower s.rows)
    (each : ∀ rows new, s.rows ⊆ rows → L.Unique lower rows → ∃ reply added a, L.answer lower rows new q = (reply, added) ∧
      read reply = .ok a ∧ ok a { rows := added.toList ++ rows, own := added.toList ++ s.own }) :
    (Exchange.single q read).Ensures (L.among lower) s ok error := by
  refine Exchange.ensures_single.2 ⟨unique, ?_⟩
  rintro reply _ ⟨rows, new, added, grown, distinct, reacts, rfl⟩
  obtain ⟨reply', added', a, answers, reads, holds⟩ := each rows new grown distinct
  obtain ⟨rfl, rfl⟩ := Prod.mk.inj (reacts.symm.trans answers)
  rw [reads]
  refine ⟨fun b same => ?_, nofun⟩
  rwa [← Except.ok.inj same]

section
variable {find insert : Statement} {read : RowReader ρ} {key : List (Option Value)} {made : Uuid → ρ}

/-- A look-up finds the row with the key if it is there, and changes nothing. -/
theorem Keeps.ensures_find (keeps : L.Keeps lower find insert read key made) (unique : L.Unique lower s.rows) :
    (Exchange.single find (Reply.first? read)).Ensures (L.among lower) s
      (fun found after => s.rows ⊆ after.rows ∧ L.Unique lower after.rows ∧ after.own = s.own ∧
        L.Tells lower key after.rows found)
      fun _ _ => False := by
  refine ensures_single unique fun rows new grown distinct => ?_
  cases found : rows.filter fun row => L.key lower row = key with
  | nil =>
    refine ⟨_, _, none, keeps.finds rows new, by rw [found]; rfl, grown, distinct, rfl, ?_⟩
    intro member
    obtain ⟨row, among, same⟩ := List.mem_map.1 member
    have kept : row ∈ rows.filter fun row => L.key lower row = key := List.mem_filter.2 ⟨among, decide_eq_true same⟩
    rw [found] at kept
    cases kept
  | cons row more =>
    have kept : row ∈ rows.filter fun row => L.key lower row = key := by
      rw [found]
      exact List.mem_cons_self
    obtain ⟨member, same⟩ := List.mem_filter.1 kept
    refine ⟨_, _, some row, keeps.finds rows new, ?_, grown, distinct, rfl, member, of_decide_eq_true same⟩
    rw [found, List.map_cons, Reply.first?, keeps.reads]
    rfl

/-- An insertion adds the row with the key unless there is one already. -/
theorem Keeps.ensures_insert (keeps : L.Keeps lower find insert read key made) (unique : L.Unique lower s.rows) :
    (Exchange.single insert (Reply.first? read)).Ensures (L.among lower) s
      (fun inserted after => L.Unique lower after.rows ∧
        match inserted with
        | some row => row ∈ after.rows ∧ L.key lower row = key ∧ after.own = row :: s.own
        | none => key ∈ after.rows.map (L.key lower) ∧ after.own = s.own)
      fun _ _ => False := by
  refine ensures_single unique fun rows new grown distinct => ?_
  have answers := keeps.inserts rows new
  by_cases taken : key ∈ rows.map (L.key lower)
  · rw [if_pos taken] at answers
    exact ⟨_, _, none, answers, rfl, distinct, taken, rfl⟩
  · rw [if_neg taken] at answers
    refine ⟨_, _, some (made new), answers, ?_, ?_, List.mem_cons_self, keeps.made new, rfl⟩
    · rw [Reply.first?, keeps.reads]
      rfl
    · show ((made new :: rows).map (L.key lower)).Nodup
      rw [List.map_cons, keeps.made]
      exact List.nodup_cons.2 ⟨taken, distinct⟩

/-- Whoever comes first, the row with the key is there at the end. If the caller's insertion finds it taken, the second
look-up finds the row that has taken it. -/
theorem Keeps.ensures_obtain (keeps : L.Keeps lower find insert read key made) (unique : L.Unique lower s.rows)
    {missing : StoreError} :
    (findOrInsert find insert read missing).Ensures (L.among lower) s
      (fun row after => row ∈ after.rows ∧ L.key lower row = key ∧ L.Unique lower after.rows ∧
        (after.own = s.own ∨ after.own = row :: s.own))
      fun _ _ => False := by
  unfold findOrInsert
  rw [fetchOptional_eq_single, fetchOptional_eq_single, Exchange.ensures_bind]
  refine Dialogue.Ensures.mono (keeps.ensures_find unique) ?_
  rintro (e | found) afterFind told
  · exact told
  obtain ⟨-, unique, own, tells⟩ := told
  cases found with
  | some row => exact ⟨tells.1, tells.2, unique, Or.inl own⟩
  | none =>
    refine Exchange.ensures_bind.2 (Dialogue.Ensures.mono (keeps.ensures_insert unique) ?_)
    rintro (e | inserted) afterInsert told
    · exact told
    obtain ⟨unique, told⟩ := told
    cases inserted with
    | some row =>
      obtain ⟨member, same, added⟩ := told
      rw [own] at added
      exact ⟨member, same, unique, Or.inr added⟩
    | none =>
      obtain ⟨taken, nothing⟩ := told
      rw [own] at nothing
      refine Exchange.ensures_bind.2 (Dialogue.Ensures.mono (keeps.ensures_find unique) ?_)
      rintro (e | again) afterAgain told
      · exact told
      obtain ⟨grown, unique, still, tells⟩ := told
      rw [nothing] at still
      cases again with
      | some row => exact ⟨tells.1, tells.2, unique, Or.inl still⟩
      | none => exact absurd (List.map_subset _ grown taken) tells

/-- A row that is there already is found, and nothing is added. -/
theorem Keeps.ensures_same (keeps : L.Keeps lower find insert read key made) (unique : L.Unique lower s.rows)
    {missing : StoreError} {row : ρ} (member : row ∈ s.rows) (same : L.key lower row = key) :
    (findOrInsert find insert read missing).Ensures (L.among lower) s
      (fun again after => again = row ∧ after.own = s.own ∧ L.Unique lower after.rows) fun _ _ => False := by
  unfold findOrInsert
  rw [fetchOptional_eq_single, Exchange.ensures_bind]
  refine Dialogue.Ensures.mono (keeps.ensures_find unique) ?_
  rintro (e | found) after told
  · exact told
  obtain ⟨grown, unique, own, tells⟩ := told
  cases found with
  | none => exact absurd (same ▸ List.mem_map_of_mem (grown member)) tells
  | some other => exact ⟨eq_of_key unique tells.1 (grown member) (tells.2.trans same.symm), own, unique⟩

end

/-- Conditions on the columns of the index are met by the rows that the index sees so. -/
theorem meets_iff {wanted : List (Compared × Value)} (all : wanted.map (·.1) = L.index) (row : ρ) :
    L.meets lower row wanted = true ↔ L.key lower row = wanted.map fun (c, v) => some (c.seen lower v) := by
  unfold meets key
  rw [← all, List.map_map, List.map_inj_left, List.all_eq_true]
  refine forall₂_congr fun condition _ => ?_
  rw [decide_eq_true_iff]
  rfl

/-- A look-up by the key finds the rows that have it. -/
theorem answer_select {q : Statement} {columns words : List Word} {wanted : List (Compared × Value)}
    (reads : q.command = .select columns L.table.toList words) (demands : conditions? q.args words = some wanted)
    (all : wanted.map (·.1) = L.index) (shows : ∀ row, L.show? columns row = some (L.row row)) (rows : List ρ)
    (new : Uuid) :
    L.answer lower rows new q =
      (.rows ((rows.filter fun row => L.key lower row = wanted.map fun (c, v) => some (c.seen lower v)).map L.row),
        none) := by
  have same : (L.meets lower · wanted) =
      fun row => decide (L.key lower row = wanted.map fun (c, v) => some (c.seen lower v)) := by
    funext row
    rw [Bool.eq_iff_iff, decide_eq_true_iff]
    exact meets_iff all row
  have shown : L.show? columns = fun row => pure (L.row row) := funext shows
  unfold answer carryOut?
  rw [reads]
  dsimp only
  rw [demands]
  dsimp only [Option.bind_eq_bind, Option.bind_some]
  rw [same, shown, List.mapM_pure, Option.pure_def, Option.bind_some, if_pos rfl]
  rfl

theorem answer_insert {q : Statement} {columns values asked : List Word} {given : List (Word × Value)} {made : Uuid → ρ}
    {key : List (Option Value)} (reads : q.command = .insert L.table.toList columns values)
    (offers : offered? q.args columns values = some (given, asked)) (makes : ∀ new, L.make new given = some (made new))
    (shows : ∀ row, L.show? asked row = some (L.row row)) (keyed : ∀ new, L.key lower (made new) = key) (rows : List ρ)
    (new : Uuid) :
    L.answer lower rows new q =
      if key ∈ rows.map (L.key lower) then (.rows [], none) else (.rows [L.row (made new)], some (made new)) := by
  unfold answer carryOut?
  rw [reads]
  dsimp only
  rw [offers]
  dsimp only [Option.bind_eq_bind, Option.bind_some]
  rw [makes, Option.bind_some, shows, Option.bind_some, if_neg (fun other => other rfl), keyed]
  split <;> rfl

/-- What is looked up by a key and inserted with it is settled. -/
theorem settles_of_keeps {κ : Type} {find insert : κ → Statement} {read : RowReader ρ} {key : κ → List (Option Value)}
    {made : κ → Uuid → ρ} {missing : κ → StoreError} {names : κ → ρ → Prop}
    (keeps : ∀ k, L.Keeps lower (find k) (insert k) read (key k) (made k))
    (named : ∀ k row, L.key lower row = key k ↔ names k row) (k : κ) {rows : List ρ}
    (unique : L.Unique lower rows) :
    L.Settles lower (fun k => findOrInsert (find k) (insert k) read (missing k)) names k rows := by
  refine Dialogue.Ensures.mono ((keeps k).ensures_obtain unique) ?_
  rintro (e | row) after told
  · exact told
  obtain ⟨member, same, unique, own⟩ := told
  refine ⟨member, (named k row).1 same, unique, own, ?_⟩
  intro k' later again grown distinct
  exact (keeps k').ensures_same distinct (grown member) ((named k' row).2 again)

end Layout
end AssetRegistry.Store

namespace AssetRegistry
open Store

/-- The table of brands. -/
def brands : Layout Brand where
  table := "asset_brands"
  index := [⟨"name".toList, true⟩]
  cells b := [("id".toList, .uuid b.id), ("name".toList, .text b.name)]
  make new given :=
    match given.lookup "name".toList with
    | some (.text name) => some { id := new, name }
    | _ => none

/-- The table of models. -/
def models : Layout Model where
  table := "asset_models"
  index := [⟨"name".toList, true⟩, ⟨"brand_id".toList, false⟩, ⟨"asset_type".toList, false⟩]
  cells m := [("id".toList, .uuid m.id), ("name".toList, .text m.name), ("asset_type".toList, .ofLabel m.assetType),
    ("brand_id".toList, .uuid m.brandId)]
  make new given :=
    match given.lookup "name".toList, given.lookup "brand_id".toList, given.lookup "asset_type".toList with
    | some (.text name), some (.uuid brandId), some (.text tag) =>
      (Vocabulary.ofLabel? tag).map fun assetType => { id := new, name, assetType, brandId }
    | _, _, _ => none

theorem command_findBrand (name : String) :
    (Statement.findBrand name).command = .select ["id".toList, "name".toList] "asset_brands".toList
      ["lower".toList, "name".toList, ['='], "lower".toList, "$1".toList] := by
  rw [Statement.command_of_spelled (q := .findBrand _) String.toList_ofList]
  decide +kernel

theorem command_insertBrand (name : String) :
    (Statement.insertBrand name).command = .insert "asset_brands".toList ["name".toList]
      ["$1".toList, "ON".toList, "CONFLICT".toList, "DO".toList, "NOTHING".toList, "RETURNING".toList, "id".toList,
        "name".toList] := by
  rw [Statement.command_of_spelled (q := .insertBrand _) String.toList_ofList]
  decide +kernel

theorem command_findModel (name : String) (brandId : Uuid) (t : AssetType) :
    (Statement.findModel name brandId t).command =
      .select ["id".toList, "name".toList, "asset_type".toList, "brand_id".toList] "asset_models".toList
        ["lower".toList, "name".toList, ['='], "lower".toList, "$1".toList, "AND".toList, "brand_id".toList, ['='],
          "$2".toList, "AND".toList, "asset_type".toList, ['='], "$3".toList] := by
  rw [Statement.command_of_spelled (q := .findModel _ _ _) (spelled_append String.toList_ofList String.toList_ofList)]
  decide +kernel

theorem command_insertModel (name : String) (brandId : Uuid) (t : AssetType) :
    (Statement.insertModel name brandId t).command =
      .insert "asset_models".toList ["name".toList, "brand_id".toList, "asset_type".toList]
        ["$1".toList, "$2".toList, "$3".toList, "ON".toList, "CONFLICT".toList, "DO".toList, "NOTHING".toList,
          "RETURNING".toList, "id".toList, "name".toList, "asset_type".toList, "brand_id".toList] := by
  rw [Statement.command_of_spelled (q := .insertModel _ _ _) (spelled_append String.toList_ofList String.toList_ofList)]
  decide +kernel

theorem ofLabel?_label (t : AssetType) : Vocabulary.ofLabel? (label t) = some t := by
  cases t <;> rfl

theorem label_inj {t t' : AssetType} (same : label t = label t') : t = t' := by
  have known := ofLabel?_label t
  rw [same, ofLabel?_label t'] at known
  exact (Option.some.inj known).symm

variable (lower : String → String)

theorem key_brand (b : Brand) : brands.key lower b = [some (.text (lower b.name))] := rfl

theorem key_model (m : Model) :
    models.key lower m = [some (.text (lower m.name)), some (.uuid m.brandId), some (.ofLabel m.assetType)] := rfl

theorem ofRow_model (m : Model) : Model.ofRow (models.row m) = .ok m := by
  obtain ⟨id, name, t, brandId⟩ := m
  cases t <;> rfl

/-- The texts for brands look up and insert by the name. -/
theorem keeps_brand (name : String) :
    brands.Keeps lower (.findBrand name) (.insertBrand name) Brand.ofRow [some (.text (lower name))]
      fun new => { id := new, name } where
  finds := by
    have demands : conditions? (Statement.findBrand name).args
        ["lower".toList, "name".toList, ['='], "lower".toList, "$1".toList] =
        some [(⟨"name".toList, true⟩, .text name)] := rfl
    exact Layout.answer_select (command_findBrand name) demands rfl fun _ => rfl
  inserts := by
    have offers : offered? (Statement.insertBrand name).args ["name".toList]
        ["$1".toList, "ON".toList, "CONFLICT".toList, "DO".toList, "NOTHING".toList, "RETURNING".toList, "id".toList,
          "name".toList] = some ([("name".toList, .text name)], ["id".toList, "name".toList]) := rfl
    exact Layout.answer_insert (command_insertBrand name) offers (fun _ => rfl) (fun _ => rfl) fun _ => rfl
  reads _ := rfl
  made _ := rfl

/-- The texts for models look up and insert by the name, the brand and the type. -/
theorem keeps_model (name : String) (brandId : Uuid) (t : AssetType) :
    models.Keeps lower (.findModel name brandId t) (.insertModel name brandId t) Model.ofRow
      [some (.text (lower name)), some (.uuid brandId), some (.ofLabel t)]
      fun new => { id := new, name, assetType := t, brandId } where
  finds := by
    have demands : conditions? (Statement.findModel name brandId t).args
        ["lower".toList, "name".toList, ['='], "lower".toList, "$1".toList, "AND".toList, "brand_id".toList, ['='],
          "$2".toList, "AND".toList, "asset_type".toList, ['='], "$3".toList] =
        some [(⟨"name".toList, true⟩, .text name), (⟨"brand_id".toList, false⟩, .uuid brandId),
          (⟨"asset_type".toList, false⟩, .ofLabel t)] := rfl
    exact Layout.answer_select (command_findModel name brandId t) demands rfl fun _ => rfl
  inserts := by
    have offers : offered? (Statement.insertModel name brandId t).args
        ["name".toList, "brand_id".toList, "asset_type".toList]
        ["$1".toList, "$2".toList, "$3".toList, "ON".toList, "CONFLICT".toList, "DO".toList, "NOTHING".toList,
          "RETURNING".toList, "id".toList, "name".toList, "asset_type".toList, "brand_id".toList] =
        some ([("name".toList, .text name), ("brand_id".toList, .uuid brandId), ("asset_type".toList, .ofLabel t)],
          ["id".toList, "name".toList, "asset_type".toList, "brand_id".toList]) := rfl
    have makes (new : Uuid) : models.make new
        [("name".toList, .text name), ("brand_id".toList, .uuid brandId), ("asset_type".toList, .ofLabel t)] =
        some { id := new, name, assetType := t, brandId } :=
      congrArg (Option.map _) (ofLabel?_label t)
    exact Layout.answer_insert (command_insertModel name brandId t) offers makes (fun _ => rfl) fun _ => rfl
  reads := ofRow_model
  made _ := rfl

/-- What a model is asked for by. -/
structure Model.Wanted where
  brandId : Uuid
  name : String
  assetType : AssetType

namespace Model.Wanted

/-- The model that is wanted is found, or else inserted. -/
def obtain (w : Wanted) : Exchange StoreError Model := findOrInsert w.brandId w.name w.assetType

/-- The model is the one that is asked for. -/
def Names (w : Wanted) (model : Model) : Prop :=
  lower model.name = lower w.name ∧ model.brandId = w.brandId ∧ model.assetType = w.assetType

end Model.Wanted

/-- A brand or a model that is asked for is there afterwards, under its name up to the case and with the brand and the type
that are asked for. At most it has been added, and it stays the one for its name. -/
theorem catalogue_settled :
    (∀ name rows, brands.Unique lower rows →
      brands.Settles lower Brand.findOrInsert (fun name brand => lower brand.name = lower name) name rows) ∧
    ∀ w rows, models.Unique lower rows →
      models.Settles lower Model.Wanted.obtain (Model.Wanted.Names lower) w rows := by
  constructor
  · intro name rows unique
    refine Layout.settles_of_keeps (keeps_brand lower) (fun name brand => ?_) name unique
    rw [key_brand]
    simp
  · intro w rows unique
    refine Layout.settles_of_keeps (fun w : Model.Wanted => keeps_model lower w.name w.brandId w.assetType)
      (fun w model => ?_) w unique
    have types : label model.assetType = label w.assetType ↔ model.assetType = w.assetType := ⟨label_inj, congrArg _⟩
    rw [key_model]
    simp [Model.Wanted.Names, Value.ofLabel, types]

/-- A brand that is stored already. -/
def acme : Brand where
  id := .ofNat 1
  name := "ACME"

/-- A monitor has the name that a mouse is going to have. -/
def screen : Model where
  id := .ofNat 2
  name := "MX"
  assetType := .monitor
  brandId := .ofNat 1

/-- Someone else adds the brand between the look-up and the insertion. Whoever asks for it later finds that one. -/
theorem acme_settled :
    (∃ first second third,
      (brands.among Text.lower).answers { rows := [] } (.statement (.findBrand "Acme")) (.rows []) first ∧
      (brands.among Text.lower).answers first (.statement (.insertBrand "Acme")) (.rows []) second ∧
      (brands.among Text.lower).answers second (.statement (.findBrand "Acme")) (.rows [brands.row acme]) third ∧
      (Brand.findOrInsert "acme").Ensures (brands.among Text.lower) { rows := third.rows }
        (fun again s => again = acme ∧ s.own = [] ∧ brands.Unique Text.lower s.rows) fun _ _ => False) ∧
    models.Settles Text.lower Model.Wanted.obtain (Model.Wanted.Names Text.lower) ⟨acme.id, "Mx", .mouse⟩ [screen] := by
  obtain ⟨settles, settles'⟩ := catalogue_settled Text.lower
  have keeps := keeps_brand Text.lower "Acme"
  have unique : brands.Unique Text.lower [acme] := List.nodup_singleton _
  have first : (brands.among Text.lower).answers { rows := [] } (.statement (.findBrand "Acme")) (.rows [])
      { rows := [] } :=
    ⟨[], .ofNat 3, none, List.Subset.refl _, List.nodup_nil, keeps.finds _ _, rfl⟩
  have second : (brands.among Text.lower).answers { rows := [] } (.statement (.insertBrand "Acme")) (.rows [])
      { rows := [acme] } :=
    ⟨[acme], .ofNat 3, none, List.nil_subset _, unique, (keeps.inserts _ _).trans (by decide +kernel), rfl⟩
  have third : (brands.among Text.lower).answers { rows := [acme] } (.statement (.findBrand "Acme"))
      (.rows [brands.row acme]) { rows := [acme] } :=
    ⟨[acme], .ofNat 3, none, List.Subset.refl _, unique, (keeps.finds _ _).trans (by decide +kernel), rfl⟩
  refine ⟨⟨_, _, _, first, second, third, ?_⟩, settles' _ _ (List.nodup_singleton _)⟩
  have told := (((settles "Acme" [] List.nodup_nil).2 _ _ first).2 _ _ second).2 _ _ third
  obtain ⟨-, -, -, -, later⟩ := told
  exact later "acme" _ (by decide +kernel) (List.Subset.refl _) unique

end AssetRegistry
