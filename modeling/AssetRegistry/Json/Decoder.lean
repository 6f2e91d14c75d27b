import AssetRegistry.Calendar.Date
import AssetRegistry.Json.Reader
import AssetRegistry.Vocabulary

namespace AssetRegistry.Json

/-- A decoder reads its value in two ways: from a JSON value at hand, and from the front of a text, where the first
fault is the one reached first. -/
structure Decoder (α : Type) where
  ofJson : Json → Except Mismatch α
  read : (depth : Nat) → List Char → Outcome α

namespace Decoder
variable {α β : Type}

def json : Decoder Json where
  ofJson j := .ok j
  read := readValue

/-- Strings with a meaning; `wanted` names them where something else stands. -/
def written (wanted : String) (parse : String → Except Mismatch α) : Decoder α where
  ofJson
    | .text s => parse s
    | j => .error (.wrongType j.found wanted)
  read _ cs :=
    match skipSpace cs with
    | '"' :: rest => (readString rest).andThen parse
    | cs => readUnwanted wanted cs

def text : Decoder String := written "a string" .ok

def date : Decoder Date :=
  written "a formatted date string" fun s =>
    match Date.parse s with
    | .ok d => .ok d
    | .error e => .error (.unreadable e.message)

def uuid : Decoder Uuid :=
  written "a formatted UUID string" fun s =>
    match Uuid.parse s with
    | .ok u => .ok u
    | .error e => .error (.unreadable ("UUID parsing failed: " ++ e.message))

/-- A number read from the text as far as it is one. -/
def readNumeric (wanted : String) (ofJson : Json → Except Mismatch α) (cs : List Char) : Outcome α :=
  match skipSpace cs with
  | '-' :: rest => (readNumber true rest).andThen ofJson
  | c :: rest => if isDigit c then (readNumber false (c :: rest)).andThen ofJson else readUnwanted wanted (c :: rest)
  | [] => malformed .endInValue []

def wholeWithin (wanted : String) (low high : Int) (ofInt : Int → α) : Decoder α :=
  let ofJson : Json → Except Mismatch α
    | .whole n => if low ≤ n && n ≤ high then .ok (ofInt n) else .error (.wrongValue (.whole n) wanted)
    | j => .error (.wrongType j.found wanted)
  { ofJson, read := fun _ cs => readNumeric wanted ofJson cs }

def int32 : Decoder Int32 := wholeWithin "i32" Int32.minValue.toInt Int32.maxValue.toInt Int32.ofInt

def int64 : Decoder Int64 := wholeWithin "i64" Int64.minValue.toInt Int64.maxValue.toInt Int64.ofInt

/-- A double; a whole number becomes the nearest one. -/
def double : Decoder Binary64 :=
  let ofJson : Json → Except Mismatch Binary64
    | .double d => .ok d
    | .whole n => .ok (.ofInt n)
    | j => .error (.wrongType j.found "f64")
  { ofJson, read := fun _ cs => readNumeric "f64" ofJson cs }

def flag : Decoder Bool where
  ofJson
    | .flag b => .ok b
    | j => .error (.wrongType j.found "a boolean")
  read _ cs :=
    match skipSpace cs with
    | 't' :: rest => readWord true "rue".toList rest
    | 'f' :: rest => readWord false "alse".toList rest
    | cs => readUnwanted "a boolean" cs

def option (d : Decoder α) : Decoder (Option α) where
  ofJson
    | .null => .ok none
    | j => (d.ofJson j).map some
  read depth cs :=
    match skipSpace cs with
    | 'n' :: rest => readWord none "ull".toList rest
    | cs => (d.read depth cs).map some

/-- The value of a vocabulary with exactly this label. -/
def ofLabel [Vocabulary α] (s : String) : Except Mismatch α :=
  match Vocabulary.ofLabel? s with
  | some a => .ok a
  | none => .error (.unknownVariant s (Vocabulary.labels α))

/-- A label, or an object whose one key is the label and whose value says nothing more; `isEmpty` tells which values
say nothing. -/
def labelOfJson [Vocabulary α] (isEmpty : Json → Bool) : Json → Except Mismatch α
  | .text s => ofLabel s
  | .object [(key, value)] =>
    match ofLabel key with
    | .error m => .error m
    | .ok a => if isEmpty value then .ok a else .error (.wrongType value.found "unit")
  | .object _ => .error (.wrongValue .map "map with a single key")
  | j => .error (.wrongType j.found "string or map")

def isNull : Json → Bool
  | .null => true
  | _ => false

/-- Reads the rest of a label written as an object, after the opening brace. -/
def readLabelObject [Vocabulary α] (cs : List Char) : Outcome α :=
  let key : Outcome String := match skipSpace cs with
    | '"' :: rest => readString rest
    | cs => readUnwanted "variant identifier" cs
  key.bind fun name rest =>
    match ofLabel name with
    | .error m => mismatch m rest
    | .ok a =>
      (readColon rest).bind fun _ rest =>
        let unit : Outcome Unit := match skipSpace rest with
          | 'n' :: rest => readWord () "ull".toList rest
          | cs => readUnwanted "unit" cs
        (unit.within (.key name)).bind fun _ rest =>
          match skipSpace rest with
          | [] => malformed .endInObject []
          | c :: rest =>
            if c = Char.ofNat 0x7D then .ok a rest else malformedBefore .expectedValue (c :: rest)

def label [Vocabulary α] : Decoder α where
  ofJson := labelOfJson isNull
  read depth cs :=
    match skipSpace cs with
    | [] => malformed .endInValue []
    | '"' :: rest => (readString rest).andThen ofLabel
    | c :: rest =>
      if c = Char.ofNat 0x7B then if depth ≤ 1 then malformed .tooDeep (c :: rest) else readLabelObject rest
      else malformed .expectedValue (c :: rest)

end Decoder

end AssetRegistry.Json
