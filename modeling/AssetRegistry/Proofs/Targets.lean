import AssetRegistry.Proofs.Wording

namespace AssetRegistry.Store

theorem head_ofList (c : Char) (cs : List Char) : (String.ofList (c :: cs)).toList.head? = some c := by simp

theorem head_intercalate {s first : String} {c : Char} (begins : first.toList.head? = some c) (rest : List String) :
    (String.intercalate s (first :: rest)).toList.head? = some c := by
  cases rest with
  | nil => simpa using begins
  | cons next rest =>
    rw [String.intercalate_cons_cons, String.append_assoc]
    exact head_append begins

theorem head_trim {s : String} {c : Char} (begins : s.toList.head? = some c) (letter : Text.isBlank c = false) :
    (Text.trim s).toList.head? = some c := by
  obtain ⟨cs, same⟩ := List.head?_eq_some_iff.1 begins
  rw [Text.toList_trim, same, Text.trimChars, List.dropWhile_cons_of_neg (by simp [letter]), List.reverse_cons,
    List.dropWhile_append]
  split <;> simp [letter]

/-- A query begins as its fixed part does. -/
theorem head_render {q : Query.Select} {rendered : Query.Rendered} {c : Char} (begins : q.base.toList.head? = some c)
    (letter : Text.isBlank c = false) (renders : q.render = .ok rendered) : rendered.text.toList.head? = some c := by
  have trimmed := head_trim begins letter
  have kept : !(Text.trim q.base).isEmpty := by
    cases empty : (Text.trim q.base).isEmpty with
    | false => rfl
    | true =>
      rw [String.isEmpty_iff.1 empty] at trimmed
      cases trimmed
  unfold Query.Select.render at renders
  cases paged : q.page.forM Query.checkPage with
  | error e => rw [paged] at renders; cases renders
  | ok checked =>
    cases conditioned : Query.Condition.render 0 q.conditions with
    | error e => rw [paged, conditioned] at renders; cases renders
    | ok clauses =>
      rw [paged, conditioned] at renders
      obtain rfl := Except.ok.inj renders
      dsimp only
      rw [List.filter_cons, if_pos kept]
      exact head_intercalate trimmed _

theorem head_query {base : String} (begins : base.toList.head? = some 'S') {q : Query.Select} (ofBase : q.base = base)
    {rendered : Query.Rendered} (checks : q.render.mapError (fun e => StoreError.query e.message) = .ok rendered) :
    rendered.text.toList.head? = some 'S' := by
  cases renders : q.render with
  | error e => rw [renders] at checks; cases checks
  | ok found =>
    rw [renders] at checks
    obtain rfl := Except.ok.inj checks
    exact head_render (ofBase ▸ begins) rfl renders

theorem head_assetListBase : assetListBase.toList.head? = some 'S' := by
  unfold assetListBase
  repeat with_reducible apply head_append
  exact head_ofList 'S' _

theorem head_userListBase : userListBase.toList.head? = some 'S' := by
  unfold userListBase
  repeat with_reducible apply head_append
  exact head_ofList 'S' _

namespace Statement

/-- The query of a list. -/
def query? : Statement → Option Query.Rendered
  | listAssets query | listUsers query => some query
  | _ => none

/-- The text of a list begins as those do that only read. -/
def Listed (q : Statement) : Prop := ∀ query ∈ q.query?, query.text.toList.head? = some 'S'

/-- The first letter of a statement's text tells those that insert from those that update, and both from all others. -/
def initial : Statement → Char
  | insertBrand _ | insertModel _ _ _ | insertAttributes _ | insertAsset _ | recordStatus _ _ | insertAssignment _ _
  | insertUser _ | addRole _ _ => 'I'
  | updateAttributes _ _ | updateAsset _ _ _ | archiveAsset _ _ | archiveEntry _ | updateUser _ _ _ | archiveUser _ _ => 'U'
  | _ => 'S'

/-- Every statement that is sent begins with the letter of its verb. -/
theorem head_text {q : Statement} (listed : q.Listed) : q.text.toList.head? = some q.initial := by
  cases q with
  | listAssets query => exact listed query rfl
  | listUsers query => exact listed query rfl
  | _ =>
    unfold text
    repeat with_reducible apply head_append
    exact head_ofList _ _

end Statement

/-- The tables of the registry. -/
inductive Target where
  | brands
  | models
  | attributes (t : AssetType)
  | assets
  | ledger
  | users
  | roles
  deriving DecidableEq

namespace Target

/-- The name of the table. -/
def table : Target → String
  | brands => "asset_brands"
  | models => "asset_models"
  | attributes t => Specs.table t
  | assets => "assets"
  | ledger => "asset_status"
  | users => "users"
  | roles => "user_roles"

/-- All tables that are written. -/
def all : List Target := [brands, models, assets, ledger, users, roles] ++ (Vocabulary.all (α := AssetType)).map attributes

theorem mem_all (t : Target) : t ∈ all := by
  obtain _ | _ | t | _ | _ | _ | _ := t
  case attributes => cases t <;> decide
  all_goals decide

theorem eq_of_table {t t' : Target} (same : t.table.toList = t'.table.toList) : t = t' := by
  have apart : ∀ t ∈ all, ∀ t' ∈ all, t.table.toList = t'.table.toList → t = t' := by decide +kernel
  exact apart t t.mem_all t' t'.mem_all same

end Target

/-- What a command does to a table. -/
inductive Write where
  | insertion (target : Target)
  | change (target : Target)
  deriving DecidableEq

namespace Command

/-- The command adds a row to the table. -/
def InsertsInto (table : String) : Command → Prop
  | .insert into _ _ => into = table.toList
  | _ => False

instance (table : String) : (c : Command) → Decidable (c.InsertsInto table)
  | .insert into _ _ => inferInstanceAs (Decidable (into = table.toList))
  | .update _ _ _ | .select _ _ _ | .other => inferInstanceAs (Decidable False)

/-- The command changes rows of the table. -/
def Updates (table : String) : Command → Prop
  | update changed _ _ => changed = table.toList
  | _ => False

/-- The command writes to the target in this way. -/
def Does (c : Command) : Write → Prop
  | .insertion target => c.InsertsInto target.table
  | .change target => c.Updates target.table

instance (table : String) : (c : Command) → Decidable (c.Updates table)
  | update changed _ _ => inferInstanceAs (Decidable (changed = table.toList))
  | insert _ _ _ | select _ _ _ | other => inferInstanceAs (Decidable False)

instance (c : Command) : (w : Write) → Decidable (c.Does w)
  | .insertion target => inferInstanceAs (Decidable (c.InsertsInto target.table))
  | .change target => inferInstanceAs (Decidable (c.Updates target.table))

/-- A command does one thing only. -/
theorem Does.unique {c : Command} {w w' : Write} (does : c.Does w) (does' : c.Does w') : w = w' := by
  cases c with
  | insert table columns values =>
    cases w with
    | change target => cases does
    | insertion target =>
      cases w' with
      | change target' => cases does'
      | insertion target' => rw [Target.eq_of_table (does.symm.trans does')]
  | update table changes key =>
    cases w with
    | insertion target => cases does
    | change target =>
      cases w' with
      | insertion target' => cases does'
      | change target' => rw [Target.eq_of_table (does.symm.trans does')]
  | _ => cases w <;> cases does

theorem not_does_of_first {c : Char} {w : Word} (ws : List Word) (insert : c ≠ 'I') (update : c ≠ 'U') (done : Write) :
    ¬(Command.ofWords ((c :: w) :: ws)).Does done := by
  obtain ⟨columns, table, key, reads⟩ | reads := ofWords_of_first ws insert update
  all_goals
    rw [reads]
    cases done <;> exact id

end Command

namespace Statement

/-- What a statement writes. -/
def write? : Statement → Option Write
  | insertBrand _ => some (.insertion .brands)
  | insertModel _ _ _ => some (.insertion .models)
  | insertAttributes a => some (.insertion (.attributes a.type))
  | updateAttributes p _ => some (.change (.attributes p.type))
  | insertAsset _ => some (.insertion .assets)
  | updateAsset _ _ _ | archiveAsset _ _ => some (.change .assets)
  | recordStatus _ _ | insertAssignment _ _ => some (.insertion .ledger)
  | archiveEntry _ => some (.change .ledger)
  | insertUser _ => some (.insertion .users)
  | addRole _ _ => some (.insertion .roles)
  | updateUser _ _ _ | archiveUser _ _ => some (.change .users)
  | _ => none

theorem reads_of_spelled {q : Statement} {cs : List Char} (P : Command → Prop) (spelled : q.text.toList = cs)
    (reads : P (.ofWords (words cs))) : P q.command := by
  rwa [command_of_spelled spelled]

theorem initial_of_reading {q : Statement} (reads : q.write? = none) : q.initial = 'S' := by
  cases q <;> first | rfl | cases reads

/-- The columns that a text gives arguments to, with the arguments' places, where it is one text for all arguments. -/
def fills? : Statement → Option (List (String × Nat))
  | insertBrand _ => some [("name", 0)]
  | insertModel _ _ _ => some [("name", 0), ("brand_id", 1), ("asset_type", 2)]
  | insertAsset _ =>
    some [("model_id", 0), ("specs_id", 1), ("serial_no", 2), ("owned_by", 3), ("purchased_date", 4),
      ("warranty_start_date", 5), ("warranty_exp_date", 6), ("created_by", 7)]
  | updateAsset _ _ _ =>
    some [("serial_no", 1), ("owned_by", 2), ("purchased_date", 3), ("warranty_start_date", 4), ("warranty_exp_date", 5),
      ("updated_by", 6)]
  | archiveAsset _ _ | archiveUser _ _ => some [("updated_by", 1)]
  | recordStatus _ _ => some [("asset_id", 0), ("status", 1)]
  | insertAssignment _ _ => some [("asset_id", 0), ("assigned_to_user", 1)]
  | archiveEntry _ => some []
  | insertUser _ => some [("name", 0), ("email", 1), ("phone", 2), ("user_type", 3)]
  | addRole _ _ => some [("user_id", 0), ("role", 1)]
  | updateUser _ _ _ => some [("name", 1), ("email", 2), ("phone", 3), ("user_type", 4), ("updated_by", 5)]
  | _ => none

set_option maxRecDepth 4000 in
/-- Each text is read once, for what it does and for the columns. -/
theorem reads_fixed {q : Statement} {w : Write} {fills : List (String × Nat)} (writes : q.write? = some w)
    (fixed : q.fills? = some fills) :
    q.command.Does w ∧ q.command.places = fills.map fun fill => (fill.1.toList, fill.2) := by
  have told {q : Statement} {cs : List Char} {w : Write} {places : List (Word × Nat)} (spelled : q.text.toList = cs)
      (reads : (Command.ofWords (words cs)).Does w ∧ (Command.ofWords (words cs)).places = places) :
      q.command.Does w ∧ q.command.places = places :=
    reads_of_spelled (fun c => c.Does w ∧ c.places = places) spelled reads
  -- The texts that write, by the pieces they are put together from.
  cases q with
  | insertBrand | archiveEntry | addRole | archiveUser =>
    cases writes
    cases fixed
    exact told String.toList_ofList (by decide +kernel)
  | insertModel | insertAsset | archiveAsset =>
    cases writes
    cases fixed
    exact told (spelled_append String.toList_ofList String.toList_ofList) (by decide +kernel)
  | recordStatus | insertAssignment =>
    cases writes
    cases fixed
    exact told (by unfold text entryColumns; exact spelled_append String.toList_ofList String.toList_ofList)
      (by decide +kernel)
  | insertUser =>
    cases writes
    cases fixed
    exact told (by unfold text userColumns; exact spelled_append String.toList_ofList String.toList_ofList)
      (by decide +kernel)
  | updateAsset =>
    cases writes
    cases fixed
    exact told
      (by
        unfold text
        exact spelled_append (spelled_append (spelled_append (spelled_append String.toList_ofList String.toList_ofList)
          String.toList_ofList) String.toList_ofList) String.toList_ofList) (by decide +kernel)
  | updateUser =>
    cases writes
    cases fixed
    exact told
      (by
        unfold text userColumns
        exact spelled_append (spelled_append (spelled_append String.toList_ofList String.toList_ofList)
          String.toList_ofList) String.toList_ofList) (by decide +kernel)
  | insertAttributes | updateAttributes => cases fixed
  | _ => cases writes

/-- The text says what is written. -/
theorem does_write {q : Statement} {w : Write} (writes : q.write? = some w) : q.command.Does w := by
  have fixed {fills : List (String × Nat)} (fixed : q.fills? = some fills) : q.command.Does w := (reads_fixed writes fixed).1
  cases q with
  | insertAttributes a =>
    cases writes
    rw [insertAttributes_command]
    rfl
  | updateAttributes p id =>
    cases writes
    rw [updateAttributes_command]
    rfl
  | insertBrand | insertModel | insertAsset | updateAsset | archiveAsset | recordStatus | insertAssignment | archiveEntry
  | insertUser | addRole | updateUser | archiveUser => exact fixed rfl
  | _ => cases writes

/-- The arguments that a fixed text gives to some columns. -/
theorem given_of_fills {q : Statement} {w : Write} {fills : List (String × Nat)} (writes : q.write? = some w)
    (fixed : q.fills? = some fills) (columns : List String) :
    q.given columns = ((fills.filter fun fill => columns.any (· = fill.1)).map (·.2)).filterMap (q.args[·]?) := by
  rw [given, Command.placesOf, (reads_fixed writes fixed).2, List.filter_map, List.map_map]
  simp only [Function.comp_def, String.toList_inj]

/-- Whatever a text is found to write is what its statement is known to write. -/
theorem write_of_does {q : Statement} {w : Write} (listed : q.Listed) (does : q.command.Does w) : q.write? = some w := by
  cases writes : q.write? with
  | some w' => rw [(does_write writes).unique does]
  | none =>
    have letter : isGap q.initial = false := by rw [initial_of_reading writes]; rfl
    obtain ⟨cs, same⟩ := List.head?_eq_some_iff.1 (head_text listed)
    obtain ⟨first, rest, split⟩ := words_cons letter cs
    unfold command at does
    rw [same, split, initial_of_reading writes] at does
    exact absurd does (Command.not_does_of_first rest (by decide) (by decide) w)

end Statement
end AssetRegistry.Store
