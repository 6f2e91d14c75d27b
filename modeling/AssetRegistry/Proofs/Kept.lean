import AssetRegistry.Json.Basic
import AssetRegistry.Proofs.Encodings
import Mathlib.Data.List.Nodup
import Mathlib.Data.String.Basic

namespace AssetRegistry.Json

/-- A value as it is kept. -/
inductive Kept : Json → Prop
  | null : Kept .null
  | flag (b : Bool) : Kept (.flag b)
  | whole {n : Int} : Int64.minValue.toInt ≤ n → n < UInt64.size → Kept (.whole n)
  | double {d : Binary64} : d.isFinite = true → Kept (.double d)
  | text (s : String) : Kept (.text s)
  | array {items : List Json} : (∀ item ∈ items, Kept item) → Kept (.array items)
  | object {entries : List (String × Json)} :
      entries.Pairwise (fun first later => Text.utf8 first.1 < Text.utf8 later.1) →
      (∀ entry ∈ entries, Kept entry.2) → Kept (.object entries)

/-- If the value is an object, each of its keys stands there once. -/
def KeysOnce : Json → Prop
  | .object entries => (entries.map (·.1)).Nodup
  | _ => True

/-- No key stands twice in a value that is kept. -/
theorem Kept.keysOnce {j : Json} (kept : j.Kept) : j.KeysOnce := by
  cases kept with
  | object ascending _ =>
    refine List.Pairwise.map _ (fun first later below same => ?_) ascending
    rw [same] at below
    exact List.lt_irrefl _ below
  | _ => trivial

theorem mem_insertEntry {key : String} {value : Json} {entry : String × Json} {entries : List (String × Json)}
    (member : entry ∈ insertEntry key value entries) : entry = (key, value) ∨ entry ∈ entries := by
  induction entries with
  | nil => exact Or.inl (List.mem_singleton.1 member)
  | cons first rest ih =>
    rw [insertEntry] at member
    split at member
    · exact (List.mem_cons.1 member).imp_right (List.mem_cons_of_mem _)
    · split at member
      · exact List.mem_cons.1 member
      · rcases List.mem_cons.1 member with rfl | later
        · exact Or.inr List.mem_cons_self
        · exact (ih later).imp_right (List.mem_cons_of_mem _)

theorem ascending_insertEntry {entries : List (String × Json)} (key : String) (value : Json)
    (ascending : entries.Pairwise fun first later => first.1 < later.1) :
    (insertEntry key value entries).Pairwise fun first later => first.1 < later.1 := by
  induction entries with
  | nil => exact List.pairwise_singleton _ _
  | cons first rest ih =>
    obtain ⟨below, ascendingRest⟩ := List.pairwise_cons.1 ascending
    rw [insertEntry]
    split
    next same => exact List.pairwise_cons.2 ⟨fun entry member => same ▸ below entry member, ascendingRest⟩
    next differ =>
      split
      next before =>
        refine List.pairwise_cons.2 ⟨fun entry member => ?_, ascending⟩
        rcases List.mem_cons.1 member with rfl | later
        · exact before
        · exact String.lt_trans before (below entry later)
      next behind =>
        refine List.pairwise_cons.2 ⟨fun entry member => ?_, ih ascendingRest⟩
        rcases mem_insertEntry member with rfl | later
        · exact lt_of_le_of_ne (not_lt.1 behind) (Ne.symm differ)
        · exact below entry later

/-- The object of some values that are kept is kept. -/
theorem kept_ofEntries {entries : List (String × Json)} (kept : ∀ entry ∈ entries, entry.2.Kept) :
    (ofEntries entries).Kept := by
  have all (sorted : List (String × Json)) (ascending : sorted.Pairwise fun first later => first.1 < later.1)
      (keptSoFar : ∀ entry ∈ sorted, entry.2.Kept) :
      (object (entries.foldl (fun sorted entry => insertEntry entry.1 entry.2 sorted) sorted)).Kept := by
    induction entries generalizing sorted with
    | nil => exact .object (ascending.imp Text.utf8_lt) keptSoFar
    | cons entry rest ih =>
      refine ih (fun entry member => kept entry (List.mem_cons_of_mem _ member)) _
        (ascending_insertEntry entry.1 entry.2 ascending) fun inserted member => ?_
      rcases mem_insertEntry member with rfl | earlier
      · exact kept entry List.mem_cons_self
      · exact keptSoFar inserted earlier
  exact all [] List.Pairwise.nil nofun

theorem perm_insertEntry {key : String} {entries : List (String × Json)} (value : Json)
    (fresh : key ∉ entries.map (·.1)) : (insertEntry key value entries).Perm ((key, value) :: entries) := by
  induction entries with
  | nil => exact .refl _
  | cons first rest ih =>
    rw [List.map_cons, List.mem_cons, not_or] at fresh
    rw [insertEntry, if_neg fresh.1]
    split
    · exact .refl _
    · exact ((ih fresh.2).cons first).trans (.swap (key, value) first rest)

/-- Entries with distinct keys all come to the others. -/
theorem perm_foldl_insertEntry (entries sorted : List (String × Json))
    (distinct : ((entries ++ sorted).map (·.1)).Nodup) :
    (entries.foldl (fun sorted entry => insertEntry entry.1 entry.2 sorted) sorted).Perm (entries ++ sorted) := by
  induction entries generalizing sorted with
  | nil => exact .refl _
  | cons entry rest ih =>
    have absent : entry.1 ∉ (rest ++ sorted).map (·.1) := (List.nodup_cons.1 distinct).1
    rw [List.map_append, List.mem_append, not_or] at absent
    have inserted : (rest ++ insertEntry entry.1 entry.2 sorted).Perm (entry :: (rest ++ sorted)) :=
      ((perm_insertEntry entry.2 absent.2).append_left rest).trans List.perm_middle
    exact (ih _ ((inserted.map (·.1)).nodup_iff.2 distinct)).trans inserted

/-- Entries under different keys are only put in order. -/
theorem perm_ofEntries {entries : List (String × Json)} (distinct : (entries.map (·.1)).Nodup) :
    ∃ sorted, ofEntries entries = .object sorted ∧ sorted.Perm entries := by
  have sorted := perm_foldl_insertEntry entries [] (by simpa using distinct)
  exact ⟨_, rfl, by simpa using sorted⟩

mutual

/-- The value that is kept of one that is written: an object in the order of its keys, and null for a double that is no
finite number. -/
def keep : Json → Json
  | .double d => if d.isFinite then .double d else .null
  | .array items => .array (keepItems items)
  | .object entries => ofEntries (keepEntries entries)
  | j => j

/-- The items, each as it is kept. -/
def keepItems : List Json → List Json
  | [] => []
  | item :: rest => keep item :: keepItems rest

/-- The entries, each with its value as it is kept. -/
def keepEntries : List (String × Json) → List (String × Json)
  | [] => []
  | (key, value) :: rest => (key, keep value) :: keepEntries rest

end

end AssetRegistry.Json
