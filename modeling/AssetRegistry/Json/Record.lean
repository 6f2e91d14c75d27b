import AssetRegistry.Json.Decoder

namespace AssetRegistry.Json

/-- One field of a record: its key, how its value is read, and the values it has where an object lacks the key and
where an array ends before it. -/
structure Field where
  Value : Type
  name : String
  decoder : Decoder Value
  whenAbsent : Option Value := none
  whenShort : Option Value := none

def Field.required {α : Type} (name : String) (decoder : Decoder α) : Field := ⟨α, name, decoder, none, none⟩

/-- A field that an object may lack or give as null; an array has to hold it. -/
def Field.optional {α : Type} (name : String) (decoder : Decoder α) : Field :=
  ⟨Option α, name, decoder.option, some none, none⟩

/-- A field with a value of its own where it is not given. -/
def Field.withDefault {α : Type} (name : String) (decoder : Decoder α) (value : α) : Field :=
  ⟨α, name, decoder, some value, some value⟩

def Tuple : List Field → Type
  | [] => Unit
  | f :: fs => f.Value × Tuple fs

/-- The fields of a record that have been read so far. -/
def Slots : List Field → Type
  | [] => Unit
  | f :: fs => Option f.Value × Slots fs

namespace Slots

def empty : (fields : List Field) → Slots fields
  | [] => ()
  | _ :: fs => (none, empty fs)

/-- Takes in the value of a key, if a field has it. -/
def fill : (fields : List Field) → Slots fields → String → Json → Except Mismatch (Slots fields)
  | [], slots, _, _ => .ok slots
  | f :: fs, (slot, slots), key, value =>
    if key = f.name then
      if slot.isSome then .error (.duplicateField key) else (f.decoder.ofJson value).map fun v => (some v, slots)
    else (fill fs slots key value).map fun slots => (slot, slots)

/-- Reads the value of a key into its field, or passes over it. -/
def fillFrom (depth : Nat) : (fields : List Field) → (key : String) → Slots fields → List Char → Outcome (Slots fields)
  | [], key, slots, cs => (readUnder key skipValue cs).map fun _ => slots
  | f :: fs, key, (slot, slots), cs =>
    if key = f.name then
      if slot.isSome then mismatch (.duplicateField key) (skipSpace cs)
      else (readUnder key (f.decoder.read depth) cs).map fun v => (some v, slots)
    else (fillFrom depth fs key slots cs).map fun slots => (slot, slots)

/-- The values of the fields, if every field has one; the first that has none is missing. -/
def finish : (fields : List Field) → Slots fields → Except Mismatch (Tuple fields)
  | [], _ => .ok ()
  | f :: fs, (slot, slots) =>
    match slot <|> f.whenAbsent with
    | some v => (finish fs slots).map fun vs => (v, vs)
    | none => .error (.missingField f.name)

end Slots

/-- A record as its readers know it: a name for messages, and its fields in order. -/
structure Record where
  name : String
  fields : List Field

namespace Record

def noun (r : Record) : String := "struct " ++ r.name

def arrayNoun (r : Record) : String :=
  r.noun ++ " with " ++ Text.ofNat r.fields.length ++ (if r.fields.length = 1 then " element" else " elements")

/-- The record of an object's entries: they are taken in their order, then the missing fields are looked for. -/
def ofEntries (r : Record) (entries : List (String × Json)) : Except Mismatch (Tuple r.fields) :=
  (entries.foldlM (fun slots entry => Slots.fill r.fields slots entry.1 entry.2) (Slots.empty r.fields)).bind
    (Slots.finish r.fields)

/-- The fields of an array's items from number `index` on, and how many items are left. -/
def ofItems (wanted : String) : (fields : List Field) → (index : Nat) → List Json → Except Mismatch (Tuple fields × Nat)
  | [], _, items => .ok ((), items.length)
  | f :: fs, index, item :: items =>
    match f.decoder.ofJson item with
    | .error m => .error m
    | .ok v => (ofItems wanted fs (index + 1) items).map fun (vs, left) => ((v, vs), left)
  | f :: fs, index, [] =>
    match f.whenShort with
    | some v => (ofItems wanted fs (index + 1) []).map fun (vs, left) => ((v, vs), left)
    | none => .error (.wrongLength index wanted)

def ofJson (r : Record) : Json → Except Mismatch (Tuple r.fields)
  | .object entries => r.ofEntries entries
  | .array items =>
    (ofItems r.arrayNoun r.fields 0 items).bind fun (vs, left) =>
      if left = 0 then .ok vs else .error (.wrongLength items.length "fewer elements in array")
  | j => .error (.wrongType j.found r.noun)

/-- Reads the fields from number `index` on as items of an array. -/
def readItems (wanted : String) (depth : Nat) :
    (fields : List Field) → (index : Nat) → List Char → Outcome (Tuple fields)
  | [], _, cs => .ok () cs
  | f :: fs, index, cs =>
    ((nextItem (index = 0) cs).within (.index index)).bind fun more rest =>
      if more then
        ((f.decoder.read depth rest).within (.index index)).bind fun v rest =>
          (readItems wanted depth fs (index + 1) rest).map fun vs => (v, vs)
      else match f.whenShort with
        | some v => (readItems wanted depth fs (index + 1) rest).map fun vs => (v, vs)
        | none => (closeList rest).bind fun _ rest => mismatch (.wrongLength index wanted) rest

/-- Reads the entries of an object after its opening brace, up to and with the closing one. -/
def readObject (r : Record) (depth : Nat) (cs : List Char) : Outcome (Tuple r.fields) :=
  (readEntries (Slots.fillFrom depth r.fields) (cs.length + 1) true (Slots.empty r.fields) cs).bind fun slots rest =>
    (closeObject rest).bind fun _ rest =>
      match Slots.finish r.fields slots with
      | .error m => mismatch m rest
      | .ok vs => .ok vs rest

def read (r : Record) (depth : Nat) (cs : List Char) : Outcome (Tuple r.fields) :=
  match skipSpace cs with
  | '[' :: rest =>
    if depth ≤ 1 then malformed .tooDeep ('[' :: rest)
    else (readItems r.arrayNoun (depth - 1) r.fields 0 rest).bind fun vs rest => (closeList rest).map fun _ => vs
  | c :: rest =>
    if c = Char.ofNat 0x7B then
      if depth ≤ 1 then malformed .tooDeep (c :: rest) else r.readObject (depth - 1) rest
    else readUnwanted r.noun (c :: rest)
  | [] => malformed .endInValue []

/-- A record is written as an object, whose unknown keys do not matter, or as an array of its fields in their order. -/
def decoder {α : Type} (r : Record) (make : Tuple r.fields → α) : Decoder α where
  ofJson j := (r.ofJson j).map make
  read depth cs := (r.read depth cs).map make

end Record

/-- Reads a whole document, of which only blanks may be left. -/
def Decoder.readAll {α : Type} (d : Decoder α) (cs : List Char) : Outcome α :=
  (d.read depthLimit cs).bind fun a rest =>
    match skipSpace rest with
    | [] => .ok a []
    | rest => malformed .trailingCharacters rest

/-- The value of a whole document, or its first fault with its place. -/
def Decoder.readDocument {α : Type} (d : Decoder α) (cs : List Char) : Except String α :=
  match d.readAll cs with
  | .ok a _ => .ok a
  | .fail e rest => .error (e.placedMessage cs rest)

def Decoder.readFront {α : Type} (d : Decoder α) (cs : List Char) : Except Failure α :=
  match d.read depthLimit cs with
  | .fail e _ => .error e
  | .ok a _ => .ok a

end AssetRegistry.Json
