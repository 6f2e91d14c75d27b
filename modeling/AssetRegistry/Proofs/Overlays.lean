import AssetRegistry.Proofs.Wording

namespace AssetRegistry.Store

/-- A row, that is what stands under each column. -/
abbrev Cells := Word → Option Value

/-- The rows of all tables, by the table's name and the row's identifier. -/
abbrev Sheets := Word → Uuid → Option Cells

/-- The argument that a placeholder stands for. -/
def argument? (args : List Value) (w : Word) : Option Value := (slot? w).bind (args[·]?)

/-- What the columns of a new row are given, one value after the other up to the words that ask for the identifier. -/
def inserted? (args : List Value) : (columns values : List Word) → Option (List (Word × Value))
  | [], values => if values = ["RETURNING".toList, "id".toList] then some [] else none
  | column :: columns, value :: values => do
    let v ← argument? args value
    let rest ← inserted? args columns values
    some ((column, v) :: rest)
  | _ :: _, [] => none

/-- The columns and their values in a sequence of equations. -/
def equated? (args : List Value) : List Word → Option (List (Word × Value))
  | [] => some []
  | column :: sign :: value :: words =>
    if sign = ['='] then do
      let v ← argument? args value
      let rest ← equated? args words
      some ((column, v) :: rest)
    else none
  | _ => none

/-- The identifier of the row that is meant. -/
def keyed? (args : List Value) (key : List Word) : Option Uuid :=
  match equated? args key with
  | some [(column, .uuid id)] => if column = "id".toList then some id else none
  | _ => none

namespace Sheets

/-- The sheets with one row as given. -/
def put (s : Sheets) (table : Word) (id : Uuid) (row : Cells) : Sheets := fun otherTable other =>
  if otherTable = table ∧ other = id then some row else s otherTable other

/-- The answer to a text that is not understood. -/
def refused : Reply := .failed { code := "42601", message := "syntax error", constraint := none }

/-- Carries out a statement as its text says. A row that is inserted gets the new identifier. -/
def answer (s : Sheets) (new : Uuid) (q : Statement) : Reply × Sheets :=
  match q.command with
  | .insert table columns values =>
    match inserted? q.args columns values, s table new with
    | some cells, none => (.rows [[("id", .uuid new)]], s.put table new (cells.lookup ·))
    | _, _ => (refused, s)
  | .update table changes key =>
    match equated? q.args changes, keyed? q.args key with
    | some changes, some id =>
      match s table id with
      | some row => (.affected 1, s.put table id fun column => (changes.lookup column).or (row column))
      | none => (.affected 0, s)
    | _, _ => (refused, s)
  | .select columns table key =>
    match keyed? q.args key with
    | some id =>
      match s table id with
      | some row =>
        match columns.mapM fun column => (row column).map (String.ofList column, ·) with
        | some cells => (.rows [cells], s)
        | none => (refused, s)
      | none => (.rows [], s)
    | none => (refused, s)
  | .other => (refused, s)

/-- Only statements change rows. -/
def react (s : Sheets) (new : Uuid) : Message → Reply × Sheets
  | .statement q => s.answer new q
  | .begin | .commit | .rollback => (.affected 0, s)

theorem put_put (s : Sheets) (table : Word) (id : Uuid) (row next : Cells) :
    (s.put table id row).put table id next = s.put table id next := by
  funext otherTable other
  unfold put
  split <;> rfl

theorem put_self (s : Sheets) (table : Word) (id : Uuid) (row : Cells) : s.put table id row table id = some row :=
  if_pos ⟨rfl, rfl⟩

theorem put_other (s : Sheets) {table otherTable : Word} {id other : Uuid} (row : Cells)
    (apart : (otherTable, other) ≠ (table, id)) : s.put table id row otherTable other = s otherTable other :=
  if_neg fun same => apart (Prod.ext same.1 same.2)

end Sheets

/-- Runs a dialogue with such a store to its end. -/
def Dialogue.carryOut {α : Type} (new : Uuid) : Dialogue α → Sheets → α × Sheets
  | .done a, s => (a, s)
  | .send m next, s => (next (s.react new m).1).carryOut new (s.react new m).2

/-- The peer that is such a store. -/
def keeping (new : Uuid) : Peer Sheets where
  accepts _ _ := True
  answers s m reply after := (reply, after) = s.react new m

/-- What is ensured against the store holds of the run on it. -/
theorem Dialogue.Ensures.carryOut {α : Type} {new : Uuid} {d : Dialogue α} {s : Sheets} {post : α → Sheets → Prop}
    (ensured : d.Ensures (keeping new) s post) : post (d.carryOut new s).1 (d.carryOut new s).2 := by
  induction d generalizing s with
  | done a => exact ensured
  | send m next ih => exact ih _ (ensured.2 _ _ rfl)

theorem Exchange.keeps_single {ε α : Type} {new : Uuid} {s after : Sheets} {q : Statement} {read : Reply → Except ε α}
    {reply : Reply} {a : α} {ok : α → Sheets → Prop} {error : ε → Sheets → Prop}
    (answers : s.answer new q = (reply, after)) (reads : read reply = .ok a) (holds : ok a after) :
    (single q read).Ensures (keeping new) s ok error := by
  refine ensures_single.2 ⟨trivial, fun _ _ answered => ?_⟩
  obtain ⟨rfl, rfl⟩ := Prod.mk.inj (answered.trans answers)
  rw [reads]
  exact ⟨fun _ same => Except.ok.inj same ▸ holds, nofun⟩

theorem placeholders_succ (start count : Nat) :
    placeholders start (count + 1) = Query.placeholder (start + 1) :: placeholders (start + 1) count := by
  unfold placeholders
  rw [List.range_succ_eq_map, List.map_cons, List.map_map]
  refine congrArg _ (List.map_congr_left fun i _ => congrArg Query.placeholder ?_)
  show start + (i + 1) + 1 = start + 1 + i + 1
  omega

theorem argument?_placeholder (args : List Value) (n : Nat) :
    argument? args (Query.placeholder (n + 1)).toList = args[n]? := by
  rw [argument?, slot?_placeholder]
  rfl

theorem inserted?_placeholders {args : List Value} {columns : List Word} {start : Nat}
    (enough : start + columns.length ≤ args.length) :
    inserted? args columns ((placeholders start columns.length).map String.toList ++ ["RETURNING".toList, "id".toList]) =
      some (columns.zip (args.drop start)) := by
  induction columns generalizing start with
  | nil => rfl
  | cons column columns ih =>
    rw [List.length_cons] at enough
    have here : start < args.length := by omega
    rw [List.length_cons, placeholders_succ, List.map_cons, List.cons_append, inserted?, argument?_placeholder,
      ih (by omega), List.drop_eq_getElem_cons here, List.getElem?_eq_getElem here]
    rfl

theorem equated?_placeholders {args : List Value} {names : List String} {start : Nat}
    (enough : start + names.length ≤ args.length) :
    equated? args ((names.zip (placeholders start names.length)).flatMap
        fun (name, slot) => [name.toList, ['='], slot.toList]) =
      some ((names.map String.toList).zip (args.drop start)) := by
  induction names generalizing start with
  | nil => rfl
  | cons name names ih =>
    rw [List.length_cons] at enough
    have here : start < args.length := by omega
    rw [List.length_cons, placeholders_succ, List.zip_cons_cons, List.flatMap_cons, List.map_cons,
      List.drop_eq_getElem_cons here]
    dsimp only [List.cons_append, List.nil_append]
    rw [equated?, if_pos rfl, argument?_placeholder, ih (by omega), List.getElem?_eq_getElem here]
    rfl

theorem keyed?_placeholder {args : List Value} {n : Nat} {id : Uuid} (found : args[n]? = some (.uuid id)) :
    keyed? args ["id".toList, ['='], (Query.placeholder (n + 1)).toList] = some id := by
  rw [keyed?, equated?, if_pos rfl, argument?_placeholder, found]
  rfl

theorem zip_pairs {α β γ : Type} (pairs : List (α × β)) (f : α → γ) (more : List β) :
    (pairs.map fun pair => f pair.1).zip (pairs.map (·.2) ++ more) = pairs.map fun pair => (f pair.1, pair.2) := by
  induction pairs with
  | nil => rfl
  | cons pair pairs ih => rw [List.map_cons, List.map_cons, List.cons_append, List.zip_cons_cons, ih, List.map_cons]

theorem lookup_spelled (pairs : List (String × Value)) (name : String) :
    (pairs.map fun pair => (pair.1.toList, pair.2)).lookup name.toList = pairs.lookup name := by
  induction pairs with
  | nil => rfl
  | cons pair pairs ih =>
    have same : (name.toList == pair.1.toList) = (name == pair.1) := by
      rw [Bool.eq_iff_iff, beq_iff_eq, beq_iff_eq, String.toList_inj]
    rw [List.map_cons, List.lookup_cons, List.lookup_cons, ih, same]

theorem lookup_zip {κ β : Type} [BEq κ] [LawfulBEq κ] {keys : List κ} (distinct : keys.Nodup) {i : Nat} {key : κ}
    (isKey : keys[i]? = some key) (values : List β) : (keys.zip values).lookup key = values[i]? := by
  induction keys generalizing i values with
  | nil => cases isKey
  | cons first keys ih =>
    obtain ⟨unlike, distinct⟩ := List.nodup_cons.1 distinct
    cases values with
    | nil => rfl
    | cons v values =>
      cases i with
      | zero =>
        obtain rfl := Option.some.inj isKey
        simp
      | succ i =>
        have other : key ≠ first := by
          rintro rfl
          exact unlike (List.mem_of_getElem? isKey)
        rw [List.zip_cons_cons, List.lookup_cons, beq_eq_false_iff_ne.2 other]
        exact ih distinct isKey values

end AssetRegistry.Store

namespace AssetRegistry.Specs

theorem Values.length_toArgs (cs : List Column) (vs : Values cs) : (toArgs cs vs).length = cs.length := by
  induction cs with
  | nil => rfl
  | cons c cs ih => exact congrArg (· + 1) (ih vs.2)

end AssetRegistry.Specs

namespace AssetRegistry.Store.Sheets
open Specs

variable {s : Sheets} {new : Uuid}

/-- The columns of a type as they stand in texts. -/
def columnWords (t : AssetType) : List Word := ((columns t).map (·.name)).map String.toList

theorem columnWords_eq (t : AssetType) : ((columns t).map (·.name)).map String.toList = columnWords t := rfl

theorem length_columnWords (t : AssetType) : (columnWords t).length = (columns t).length := by simp [columnWords]

theorem answer_insert (a : Attributes) (fresh : s (table a.type).toList new = none) :
    s.answer new (.insertAttributes a) =
      (.rows [[("id", .uuid new)]], s.put (table a.type).toList new (((columnWords a.type).zip a.args).lookup ·)) := by
  have enough : 0 + (columnWords a.type).length ≤ a.args.length := by
    rw [Attributes.args, Values.length_toArgs, length_columnWords]
    omega
  unfold answer
  rw [insertAttributes_command, ← length_columnWords, columnWords_eq]
  dsimp only [Statement.args]
  rw [inserted?_placeholders enough, fresh]
  rfl

/-- An update lays its values over the row. -/
theorem answer_update {p : AttributesPatch} {id : Uuid} {row : Cells} (here : s (table p.type).toList id = some row) :
    s.answer new (.updateAttributes p id) = (.affected 1, s.put (table p.type).toList id fun column =>
      ((p.assignments.map fun pair => (pair.1.toList, pair.2)).lookup column).or (row column)) := by
  have count : p.changedColumns.length = p.assignments.length := List.length_map _
  have enough : 0 + p.changedColumns.length ≤ (p.assignments.map (·.2) ++ [Value.uuid id]).length := by
    rw [count, List.length_append, List.length_map]
    omega
  have read := equated?_placeholders enough
  have names : p.changedColumns.map String.toList = p.assignments.map (·.1.toList) := List.map_map
  rw [names, List.drop_zero, zip_pairs] at read
  have key : (p.assignments.map (·.2) ++ [Value.uuid id])[p.changedColumns.length]? = some (.uuid id) := by
    rw [count]
    simp
  unfold answer
  rw [updateAttributes_command]
  dsimp only [Statement.args]
  unfold changeWords
  rw [read, keyed?_placeholder key]
  dsimp only
  rw [here]

theorem answer_select {t : AssetType} {id : Uuid} {row : Cells} (here : s (table t).toList id = some row)
    {cells : Row} (shows : (columnWords t).mapM (fun column => (row column).map (String.ofList column, ·)) = some cells) :
    s.answer new (.findAttributes t id) = (.rows [cells], s) := by
  have key : keyed? [.uuid id] ["id".toList, ['='], "$1".toList] = some id := keyed?_placeholder (n := 0) rfl
  unfold answer
  rw [findAttributes_command, columnWords_eq]
  dsimp only [Statement.args]
  rw [key]
  dsimp only
  rw [here]
  dsimp only
  rw [shows]

end AssetRegistry.Store.Sheets

namespace AssetRegistry.Specs
open Store

/-- The last value that some payloads give a column. -/
def latest? (payloads : List Json) (place : Nat) (c : Column) : Option Json :=
  payloads.reverse.findSome? (given? · place c)

/-- The value is read from the last one that some payloads give the column. -/
def Latest (payloads : List Json) (place : Nat) (c : Column) (v : c.kind.Value) : Prop :=
  ∃ j, latest? payloads place c = some j ∧ c.kind.decoder.ofJson j = .ok v

theorem latest?_append (payloads : List Json) (payload : Json) (place : Nat) (c : Column) :
    latest? (payloads ++ [payload]) place c = (given? payload place c).or (latest? payloads place c) := by
  unfold latest?
  rw [List.reverse_append, List.reverse_singleton, List.singleton_append, List.findSome?_cons]
  cases given? payload place c <;> rfl

/-- Under each column of a row stands a value that is as told. -/
def Stands (cs : List Column) (told : Nat → (c : Column) → c.kind.Value → Prop) (row : Cells) : Prop :=
  ∀ i c, cs[i]? = some c → ∃ v, told i c v ∧ row c.name.toList = some (c.kind.toValue v)

theorem Kind.reader_toValue (k : Kind) (v : k.Value) : k.reader (k.toValue v) = .ok v := by
  cases k with
  | int32 => exact congrArg Except.ok (Int32.ofInt_toInt v)
  | _ => rfl

/-- Where every column has a value of its kind, the row reads as these values. -/
theorem Values.ofRow_of_stands {cs : List Column} {told : Nat → (c : Column) → c.kind.Value → Prop} {cells : Row}
    (stands : ∀ i c, cs[i]? = some c → ∃ v, told i c v ∧ cells.lookup c.name = some (c.kind.toValue v)) :
    ∃ vs, ofRow cells cs = .ok vs ∧
      ∀ i c, cs[i]? = some c → ∃ v, told i c v ∧ (toArgs cs vs)[i]? = some (c.kind.toValue v) := by
  induction cs generalizing told with
  | nil => exact ⟨(), rfl, nofun⟩
  | cons c cs ih =>
    obtain ⟨v, isTold, found⟩ := stands 0 c rfl
    have later (i : Nat) (c : Column) (isColumn : cs[i]? = some c) :
        ∃ v, told (i + 1) c v ∧ cells.lookup c.name = some (c.kind.toValue v) := stands (i + 1) c isColumn
    obtain ⟨vs, read, rest⟩ := ih later
    refine ⟨(v, vs), ?_, fun i other isColumn => ?_⟩
    · have first : Row.get cells c.name c.kind.reader = .ok v := by
        unfold Row.get
        rw [found]
        dsimp only
        rw [c.kind.reader_toValue]
        rfl
      rw [ofRow, first, read]
      rfl
    · cases i with
      | zero =>
        obtain rfl := Option.some.inj isColumn
        exact ⟨v, isTold, rfl⟩
      | succ i => exact rest i other isColumn

/-- A row that is asked for its columns tells what stands under each of them. -/
theorem shown {cs : List Column} {row : Cells} (full : ∀ c ∈ cs, (row c.name.toList).isSome) :
    ∃ cells : Row, ((cs.map (·.name)).map String.toList).mapM (fun column => (row column).map (String.ofList column, ·)) =
        some cells ∧ ∀ c ∈ cs, cells.lookup c.name = row c.name.toList := by
  induction cs with
  | nil => exact ⟨[], rfl, nofun⟩
  | cons c cs ih =>
    obtain ⟨cells, read, told⟩ := ih fun c member => full c (List.mem_cons_of_mem _ member)
    obtain ⟨v, found⟩ := Option.isSome_iff_exists.1 (full c List.mem_cons_self)
    refine ⟨(c.name, v) :: cells, ?_, fun other member => ?_⟩
    · rw [List.map_cons, List.map_cons, List.mapM_cons, found, read, Option.map_some, String.ofList_toList]
      rfl
    · by_cases same : other.name = c.name
      · rw [List.lookup_cons, same, beq_self_eq_true, found]
      · rw [List.lookup_cons, beq_eq_false_iff_ne.2 same]
        rcases List.mem_cons.1 member with rfl | later
        · exact absurd rfl same
        · exact told other later

theorem distinct_columnWords (t : AssetType) : (Sheets.columnWords t).Nodup :=
  List.Pairwise.map _ (fun _ _ differ same => differ (String.toList_inj.1 same)) (distinct_columns t)

/-- What is inserted stands for the first payload. -/
theorem stands_inserted {t : AssetType} {payload : Json} {a : Attributes} (reads : Attributes.ofPayload t payload = .ok a) :
    Stands (columns t) (Latest [payload]) (((Sheets.columnWords t).zip a.args).lookup ·) := by
  intro i c isColumn
  obtain ⟨j, v, given, reading, found⟩ := (Attributes.args_of_payload reads).2 i c isColumn
  refine ⟨v, ⟨j, (latest?_append [] payload i c).trans (by rw [given]; rfl), reading⟩, ?_⟩
  have isKey : (Sheets.columnWords t)[i]? = some c.name.toList := by simp [Sheets.columnWords, isColumn]
  exact (lookup_zip (distinct_columnWords t) isKey a.args).trans found

theorem stands_updated {t : AssetType} {payloads : List Json} {payload : Json} {p : AttributesPatch} {row : Cells}
    (stands : Stands (columns t) (Latest payloads) row) (reads : AttributesPatch.ofPayload t payload = .ok p) :
    Stands (columns t) (Latest (payloads ++ [payload])) fun column =>
      ((p.assignments.map fun pair => (pair.1.toList, pair.2)).lookup column).or (row column) := by
  intro i c isColumn
  obtain ⟨v, ⟨j, last, reading⟩, found⟩ := stands i c isColumn
  have changed := (AttributesPatch.assignments_of_payload reads).2 i c isColumn
  dsimp only
  rw [lookup_spelled]
  unfold Latest
  rw [latest?_append]
  split at changed
  next j' given =>
    obtain ⟨v', reading', set⟩ := changed
    exact ⟨v', ⟨j', by rw [given]; rfl, reading'⟩, by rw [set]; rfl⟩
  next given => exact ⟨v, ⟨j, by rw [given]; exact last, reading⟩, by rw [changed]; exact found⟩

end AssetRegistry.Specs

namespace AssetRegistry
open Store Specs Exchange

variable {t : AssetType} {new id : Uuid} {base s : Sheets} {payload : Json} {payloads : List Json}

/-- The tables are as they were but for one row, which holds the last values that some payloads give. -/
def Overlaid (base : Sheets) (t : AssetType) (id : Uuid) (payloads : List Json) (s : Sheets) : Prop :=
  ∃ row, s = base.put (table t).toList id row ∧ Stands (columns t) (Latest payloads) row

theorem Overlaid.of_empty {p : AttributesPatch} (overlaid : Overlaid base t id payloads s)
    (reads : AttributesPatch.ofPayload t payload = .ok p) (empty : p.isEmpty) :
    Overlaid base t id (payloads ++ [payload]) s := by
  obtain ⟨row, rfl, stands⟩ := overlaid
  have updated := stands_updated stands reads
  rw [List.isEmpty_iff.1 empty] at updated
  exact ⟨row, rfl, updated⟩

/-- Attributes that pass the check are made a row. -/
theorem Attributes.create_overlays (accepted : (check t payload).isOk) (fresh : base (table t).toList new = none) :
    (create t payload).Ensures (keeping new) base (fun id s => id = new ∧ Overlaid base t new [payload] s)
      fun _ _ => False := by
  cases checked : check t payload with
  | error e => rw [checked] at accepted; cases accepted
  | ok a =>
    have reads := ok_of_mapError checked
    obtain ⟨rfl, -⟩ := args_of_payload reads
    unfold create
    rw [checked]
    refine ensures_bind.2 (ensures_ofExcept.2 ⟨?_, nofun⟩)
    rintro _ ⟨⟩
    rw [ensures_mapError, fetchOne_eq_single]
    exact keeps_single (Sheets.answer_insert a fresh) rfl ⟨rfl, _, rfl, stands_inserted reads⟩

/-- An update that passes the check lies over the earlier ones. -/
theorem AttributesPatch.apply_overlays (accepted : (check t payload).isOk) (overlaid : Overlaid base t id payloads s) :
    (apply t id payload).Ensures (keeping new) s (fun _ s => Overlaid base t id (payloads ++ [payload]) s)
      fun _ _ => False := by
  cases checked : check t payload with
  | error e => rw [checked] at accepted; cases accepted
  | ok p =>
    have reads := ok_of_mapError checked
    obtain ⟨rfl, -⟩ := assignments_of_payload reads
    unfold apply
    rw [checked]
    refine ensures_bind.2 (ensures_ofExcept.2 ⟨?_, nofun⟩)
    rintro _ ⟨⟩
    -- An empty update is not sent, but it counts among the payloads all the same.
    refine ensures_ite.2 ⟨fun empty => overlaid.of_empty reads empty, fun _ => ?_⟩
    obtain ⟨row, rfl, stands⟩ := overlaid
    rw [ensures_bind, ensures_mapError, execute_eq_single]
    refine keeps_single (Sheets.answer_update (base.put_self (table p.type).toList id row)) rfl ?_
    rw [Sheets.put_put]
    refine ensures_ite.2 ⟨nofun, fun _ => ?_⟩
    exact ⟨_, rfl, stands_updated stands reads⟩

/-- Updates lie over one another in their order, by induction on them. -/
theorem AttributesPatch.forM_overlays {updates : List Json} (accepted : ∀ payload ∈ updates, (check t payload).isOk)
    (overlaid : Overlaid base t id payloads s) :
    (updates.forM (apply t id)).Ensures (keeping new) s (fun _ s => Overlaid base t id (payloads ++ updates) s)
      fun _ _ => False := by
  -- Carried along is that one row alone differs from the tables at the beginning.
  induction updates generalizing payloads s with
  | nil => simpa using overlaid
  | cons payload rest ih =>
    obtain ⟨first, later⟩ := List.forall_mem_cons.1 accepted
    refine ensures_bind.2 ((apply_overlays first overlaid).mono fun result s ended => ?_)
    cases result with
    | error e => exact ended
    | ok _ => simpa using ih later ended

/-- What is read back of a column is the last value that it was given. -/
theorem Attributes.get_overlaid (overlaid : Overlaid base t id payloads s) :
    (get t id).Ensures (keeping new) s (fun a after => after = s ∧ a.type = t ∧
        ∀ i c, (columns t)[i]? = some c → ∃ v, Latest payloads i c v ∧ a.args[i]? = some (c.kind.toValue v))
      fun _ _ => False := by
  obtain ⟨row, rfl, stands⟩ := overlaid
  have full (c : Column) (member : c ∈ columns t) : (row c.name.toList).isSome := by
    obtain ⟨i, isColumn⟩ := List.mem_iff_getElem?.1 member
    obtain ⟨v, -, found⟩ := stands i c isColumn
    rw [found]
    rfl
  obtain ⟨cells, shows, told⟩ := shown full
  obtain ⟨vs, read, holds⟩ := Values.ofRow_of_stands fun i c isColumn => by
    obtain ⟨v, isTold, found⟩ := stands i c isColumn
    exact ⟨v, isTold, (told c (List.mem_of_getElem? isColumn)).trans found⟩
  unfold get
  rw [ensures_mapError, ensures_bind, fetchOptional_eq_single]
  refine keeps_single (a := some ⟨t, vs⟩) (Sheets.answer_select (base.put_self (table t).toList id row) shows) ?_ ?_
  · show ((ofRow t cells).map some).mapError StoreError.ofClient = _
    unfold ofRow
    rw [read]
    rfl
  · exact ⟨rfl, rfl, holds⟩

/-- Attributes are inserted, updated by some payloads one after the other, and read back. -/
def Attributes.session (t : AssetType) (payload : Json) (updates : List Json) :
    Exchange AttributesError (Uuid × Attributes) := do
  let id ← create t payload
  updates.forM (AttributesPatch.apply t id)
  let attributes ← get t id
  pure (id, attributes)

/-- The attributes are made, updated and read back. -/
theorem Attributes.session_overlays {updates : List Json} (created : (check t payload).isOk)
    (accepted : ∀ payload ∈ updates, (AttributesPatch.check t payload).isOk)
    (fresh : base (table t).toList new = none) :
    (session t payload updates).Ensures (keeping new) base
      (fun (id, a) s => id = new ∧ Overlaid base t new (payload :: updates) s ∧ a.type = t ∧
        ∀ i c, (columns t)[i]? = some c →
          ∃ v, Latest (payload :: updates) i c v ∧ a.args[i]? = some (c.kind.toValue v)) fun _ _ => False := by
  refine ensures_bind.2 ((create_overlays created fresh).mono fun result s ended => ?_)
  rcases result with e | id
  · exact ended
  obtain ⟨rfl, overlaid⟩ := ended
  refine ensures_bind.2 ((AttributesPatch.forM_overlays accepted overlaid).mono fun result s ended => ?_)
  rcases result with e | _
  · exact ended
  refine ensures_bind.2 ((get_overlaid ended).mono fun result after read => ?_)
  rcases result with e | a
  · exact read
  obtain ⟨rfl, sameType, holds⟩ := read
  exact ⟨rfl, ended, sameType, holds⟩

/-- An update without values sends nothing. -/
theorem AttributesPatch.apply_silent (accepted : (check t payload).isOk)
    (nothing : ∀ i c, (columns t)[i]? = some c → given? payload i c = none) (id : Uuid) :
    (apply t id payload).run = .done (.ok ()) := by
  cases checked : check t payload with
  | error e => rw [checked] at accepted; cases accepted
  | ok p =>
    obtain ⟨sameType, told⟩ := assignments_of_payload (ok_of_mapError checked)
    have empty : p.isEmpty := by
      subst sameType
      unfold isEmpty
      cases written : p.assignments with
      | nil => rfl
      | cons pair rest =>
        have among : pair.1 ∈ p.assignments.map (·.1) := by simp [written]
        obtain ⟨c, member, named⟩ := Changes.mem_columns among
        obtain ⟨i, isColumn⟩ := List.mem_iff_getElem?.1 member
        have unwritten := told i c isColumn
        rw [nothing i c isColumn] at unwritten
        simp [written, named] at unwritten
    unfold apply
    rw [checked]
    show (if p.isEmpty then _ else _ : Exchange AttributesError Unit).run = _
    rw [if_pos empty]
    rfl

/-- Attributes that are inserted into any tables, updated by any payloads and read back have under every column the last
value that was given to it, and no other row has changed. An update that gives no column a value sends nothing. -/
theorem Attributes.updates_overlay (t : AssetType) (payload : Json) (updates : List Json) (base : Sheets) (new : Uuid)
    (created : (check t payload).isOk) (accepted : ∀ update ∈ updates, (AttributesPatch.check t update).isOk)
    (fresh : base (table t).toList new = none) :
    (∃ a s, (session t payload updates).run.carryOut new base = (.ok (new, a), s) ∧ a.type = t ∧
      (∀ i c, (columns t)[i]? = some c → ∃ j v, latest? (payload :: updates) i c = some j ∧
        c.kind.decoder.ofJson j = .ok v ∧ a.args[i]? = some (c.kind.toValue v)) ∧
      ∀ otherTable other, (otherTable, other) ≠ ((table t).toList, new) → s otherTable other = base otherTable other) ∧
    ∀ update ∈ updates, (∀ i c, (columns t)[i]? = some c → given? update i c = none) →
      ∀ id, (AttributesPatch.apply t id update).run = .done (.ok ()) := by
  refine ⟨?_, fun update member nothing => AttributesPatch.apply_silent (accepted update member) nothing⟩
  have played := Dialogue.Ensures.carryOut (session_overlays created accepted fresh)
  cases result : (session t payload updates).run.carryOut new base with
  | mk ended s =>
    rw [result] at played
    cases ended with
    | error e => exact played.elim
    | ok found =>
      obtain ⟨rfl, ⟨row, rfl, -⟩, sameType, holds⟩ := played
      refine ⟨found.2, _, rfl, sameType, fun i c isColumn => ?_, fun _ _ apart => base.put_other row apart⟩
      obtain ⟨v, ⟨j, last, reading⟩, stored⟩ := holds i c isColumn
      exact ⟨j, v, last, reading, stored⟩

/-- The attributes of a mouse. -/
def mousePayload : Json :=
  .object [("type", .text "optical"), ("dpi", .whole 800), ("number_of_buttons", .whole 3)]

/-- The first update changes the resolution, the second one the number of buttons, and the last one nothing. -/
def mouseUpdates : List Json :=
  [.object [("dpi", .whole 1600), ("type", .null)], .array [.null, .null, .whole 5],
    .object [("colour", .text "grey"), ("dpi", .null)]]

/-- The resolution is the updated one, and a payload of nulls and unknown names sends nothing. -/
theorem mouse_overlaid :
    (∃ a s, (Attributes.session .mouse mousePayload mouseUpdates).run.carryOut (.ofNat 7) (fun _ _ => none) =
      (.ok (.ofNat 7, a), s) ∧ a.args[1]? = some (.integer 1600)) ∧
    (AttributesPatch.apply .mouse (.ofNat 7) (.object [("colour", .text "grey"), ("dpi", .null)])).run =
      .done (.ok ()) := by
  have created : (Attributes.check .mouse mousePayload).isOk := by decide +kernel
  have accepted : ∀ update ∈ mouseUpdates, (AttributesPatch.check .mouse update).isOk := by
    simp only [mouseUpdates, List.forall_mem_cons]
    decide +kernel
  obtain ⟨⟨a, s, played, -, told, -⟩, silent⟩ :=
    Attributes.updates_overlay .mouse mousePayload mouseUpdates (fun _ _ => none) (.ofNat 7) created accepted rfl
  constructor
  · obtain ⟨j, v, last, reading, stored⟩ := told 1 ⟨"dpi", .int32⟩ rfl
    obtain rfl : j = .whole 1600 := Option.some.inj (last.symm.trans rfl)
    obtain rfl : v = 1600 := Except.ok.inj (reading.symm.trans rfl)
    exact ⟨a, s, played, stored⟩
  · refine silent _ (by simp [mouseUpdates]) (fun i c isColumn => ?_) _
    match i, isColumn with
    | 0, isColumn | 1, isColumn | 2, isColumn => obtain rfl := Option.some.inj isColumn; rfl

end AssetRegistry
