import AssetRegistry.Json.Mismatch

namespace AssetRegistry.Json

/-- Faults of the text itself. -/
inductive Malformed where
  | endInValue
  | endInList
  | endInObject
  | endInString
  | expectedColon
  | expectedListComma
  | expectedObjectComma
  | expectedIdent
  | expectedValue
  | invalidEscape
  | invalidNumber
  | numberOutOfRange
  | controlCharacter
  | keyNotString
  | loneSurrogate
  | endInSurrogates
  | trailingComma
  | trailingCharacters
  | tooDeep
  deriving DecidableEq, Repr

def Malformed.message : Malformed → String
  | .endInValue => "EOF while parsing a value"
  | .endInList => "EOF while parsing a list"
  | .endInObject => "EOF while parsing an object"
  | .endInString => "EOF while parsing a string"
  | .expectedColon => "expected `:`"
  | .expectedListComma => "expected `,` or `]`"
  | .expectedObjectComma => "expected `,` or `\x7d`"
  | .expectedIdent => "expected ident"
  | .expectedValue => "expected value"
  | .invalidEscape => "invalid escape"
  | .invalidNumber => "invalid number"
  | .numberOutOfRange => "number out of range"
  | .controlCharacter => "control character (\\u0000-\\u001F) found while parsing a string"
  | .keyNotString => "key must be a string"
  | .loneSurrogate => "lone leading surrogate in hex escape"
  | .endInSurrogates => "unexpected end of hex escape"
  | .trailingComma => "trailing comma"
  | .trailingCharacters => "trailing characters"
  | .tooDeep => "recursion limit exceeded"

/-- One step from a value to a value inside it. The key is unknown while it is being read. -/
inductive Step where
  | key (name : String)
  | index (i : Nat)
  | unknown
  deriving DecidableEq, Repr

/-- The first fault of a document: one of the text, or one of what it says. -/
inductive Cause where
  | malformed (m : Malformed)
  | mismatch (m : Mismatch)

def Cause.message : Cause → String
  | .malformed m => m.message
  | .mismatch m => m.message

/-- A fault with the steps that lead to it. A fault that lies in the byte ahead is told as if that byte had been read.
-/
structure Failure where
  cause : Cause
  path : List Step := []
  ahead : Bool := false

/-- What a reader leaves: a value or a failure, and the text not yet read. -/
inductive Outcome (α : Type) where
  | ok (value : α) (rest : List Char)
  | fail (failure : Failure) (rest : List Char)

namespace Outcome
variable {α β : Type}

def bind (o : Outcome α) (f : α → List Char → Outcome β) : Outcome β :=
  match o with
  | .ok a rest => f a rest
  | .fail e rest => .fail e rest

def map (f : α → β) (o : Outcome α) : Outcome β := o.bind fun a rest => .ok (f a) rest

def within (step : Step) : Outcome α → Outcome α
  | .ok a rest => .ok a rest
  | .fail e rest => .fail { e with path := step :: e.path } rest

/-- Continues with a reading that may disagree with the value. -/
def andThen (o : Outcome α) (f : α → Except Mismatch β) : Outcome β :=
  o.bind fun a rest =>
    match f a with
    | .ok b => .ok b rest
    | .error m => .fail { cause := .mismatch m } rest

end Outcome

/-- These faults lie in a byte that is not read any more. -/
def Malformed.isAhead : Malformed → Bool
  | .expectedColon | .expectedListComma | .expectedObjectComma | .expectedValue | .keyNotString | .trailingComma
  | .trailingCharacters | .tooDeep => true
  | _ => false

def malformed {α : Type} (m : Malformed) (rest : List Char) : Outcome α :=
  .fail { cause := .malformed m, ahead := m.isAhead } rest

/-- Stops at a fault that lies in the byte ahead. -/
def malformedAhead {α : Type} (m : Malformed) (rest : List Char) : Outcome α :=
  .fail { cause := .malformed m, ahead := true } rest

def malformedBefore {α : Type} (m : Malformed) (rest : List Char) : Outcome α :=
  .fail { cause := .malformed m } rest

def mismatch {α : Type} (m : Mismatch) (rest : List Char) : Outcome α := .fail { cause := .mismatch m } rest

/-- The blanks that may stand between the tokens of a document. -/
def isSpace (c : Char) : Bool := c = ' ' || c = '\n' || c = '\t' || c = '\r'

def skipSpace (cs : List Char) : List Char := cs.dropWhile isSpace

def isDigit (c : Char) : Bool := '0' ≤ c && c ≤ '9'

/-- The rest of a word whose first letter has been read. -/
def readWord {α : Type} (value : α) : (word : List Char) → List Char → Outcome α
  | [], rest => .ok value rest
  | _ :: _, [] => malformed .endInValue []
  | w :: word, c :: rest => if w = c then readWord value word rest else malformed .expectedIdent rest

/-- The digits are taken into a number of 64 bits as long as it holds them; the digits left over are returned. -/
def packDigits (n : Nat) : List Char → Nat × List Char
  | [] => (n, [])
  | c :: cs =>
    let next := n * 10 + (c.toNat - 48)
    if next < UInt64.size then packDigits next cs else (n, c :: cs)

/-- The double of a sign, digits and a place of the point. -/
def makeDouble (negative : Bool) (digits : Nat) (places : Int) (rest : List Char) : Outcome Json :=
  match Binary64.ofDecimal? negative digits places with
  | some d => .ok (.double d) rest
  | none => malformed .numberOutOfRange rest

/-- The number of some digits, as far as 32 bits hold it, and the digits behind the first one that they do not. -/
def packExponent (n : Nat) : List Char → Nat × Option (List Char)
  | [] => (n, none)
  | c :: cs =>
    let next := n * 10 + (c.toNat - 48)
    if Int.ofNat next ≤ Int32.maxValue.toInt then packExponent next cs else (n, some cs)

/-- An exponent after its letter. One that 32 bits do not hold makes the number zero or too great. -/
def readExponent (negative : Bool) (digits : Nat) (places : Int) (cs : List Char) : Outcome Json :=
  let (down, cs) : Bool × List Char := match cs with
    | '+' :: rest => (false, rest)
    | '-' :: rest => (true, rest)
    | _ => (false, cs)
  match cs with
  | [] => malformed .endInValue []
  | c :: rest =>
    if !isDigit c then malformed .invalidNumber rest
    else
      match packExponent 0 (cs.takeWhile isDigit) with
      | (exponent, none) =>
        makeDouble negative digits (if down then places - exponent else places + exponent) (cs.dropWhile isDigit)
      | (_, some unused) =>
        if digits = 0 || down then .ok (.double (.ofMagnitude negative 0)) (cs.dropWhile isDigit)
        else malformed .numberOutOfRange (unused ++ cs.dropWhile isDigit)

/-- A fraction after its point. Digits that 64 bits no longer hold are dropped. -/
def readFraction (negative : Bool) (digits : Nat) (places : Int) (cs : List Char) : Outcome Json :=
  let fraction := cs.takeWhile isDigit
  let rest := cs.dropWhile isDigit
  if fraction.isEmpty then malformedAhead (if rest.isEmpty then .endInValue else .invalidNumber) rest
  else
    let (digits, unused) := packDigits digits fraction
    let places := places - (fraction.length - unused.length : Nat)
    match rest with
    | 'e' :: rest => readExponent negative digits places rest
    | 'E' :: rest => readExponent negative digits places rest
    | _ => makeDouble negative digits places rest

/-- A whole number with its sign. Zero with a minus sign and numbers below minus two to the 63 are doubles. -/
def makeWhole (negative : Bool) (digits : Nat) : Json :=
  if !negative then .whole digits
  else if digits = 0 || -Int.ofNat digits < Int64.minValue.toInt then
    .double (.ofMagnitude true (Binary64.roundRatio digits 1))
  else .whole (-digits)

/-- What follows the whole digits of a number; `unused` of them did not fit and count as places. -/
def readNumberTail (negative : Bool) (digits unused : Nat) (rest : List Char) : Outcome Json :=
  match rest with
  | '.' :: rest => readFraction negative digits unused rest
  | 'e' :: rest => readExponent negative digits unused rest
  | 'E' :: rest => readExponent negative digits unused rest
  | _ => if unused = 0 then .ok (makeWhole negative digits) rest else makeDouble negative digits unused rest

def readNumber (negative : Bool) (cs : List Char) : Outcome Json :=
  match cs with
  | [] => malformed .endInValue []
  | '0' :: rest =>
    if rest.head?.any isDigit then malformedAhead .invalidNumber rest else readNumberTail negative 0 0 rest
  | c :: rest =>
    if isDigit c then
      let (digits, unused) := packDigits 0 (cs.takeWhile isDigit)
      readNumberTail negative digits unused.length (cs.dropWhile isDigit)
    else malformed .invalidNumber rest

/-- Four hexadecimal digits. The text has ended only if fewer than four bytes are left. -/
def readHex (cs : List Char) : Outcome Nat :=
  if Text.utf8Length (cs.take 4) < 4 then malformed .endInString []
  else match Text.ofHexDigits? (cs.take 4) with
    | some n => if (cs.take 4).length = 4 then .ok n (cs.drop 4) else malformed .invalidEscape (cs.drop 4)
    | none => malformed .invalidEscape (cs.drop 4)

/-- The code point of an escape by number: one of the basic plane, or two surrogates in order. -/
def readCodePoint (cs : List Char) : Outcome Nat :=
  (readHex cs).bind fun high rest =>
    if 0xDC00 ≤ high && high ≤ 0xDFFF then malformed .loneSurrogate rest
    else if high < 0xD800 || 0xDBFF < high then .ok high rest
    else match rest with
      | [] => malformed .endInString []
      | '\\' :: [] => malformed .endInString []
      | '\\' :: 'u' :: rest =>
        (readHex rest).bind fun low rest =>
          if low < 0xDC00 || 0xDFFF < low then malformed .loneSurrogate rest
          else .ok ((high - 0xD800) * 1024 + (low - 0xDC00) + 0x10000) rest
      | '\\' :: _ :: rest => malformed .endInSurrogates rest
      | _ :: rest => malformed .endInSurrogates rest

def escapedLetter? (c : Char) : Option Char :=
  if c = '"' || c = '\\' || c = '/' then some c
  else if c = 'b' then some (Char.ofNat 8)
  else if c = 'f' then some (Char.ofNat 12)
  else if c = 'n' then some '\n'
  else if c = 'r' then some '\r'
  else if c = 't' then some '\t'
  else none

/-- The characters of a string after its opening quote, the ones read so far in `before`, last first. `fuel` bounds
their number. -/
def readStringWithin : (fuel : Nat) → (before : List Char) → List Char → Outcome String
  | 0, _, cs => malformed .endInString cs
  | _, _, [] => malformed .endInString []
  | _, before, '"' :: rest => .ok (.ofList before.reverse) rest
  | _, _, '\\' :: [] => malformed .endInString []
  | fuel + 1, before, '\\' :: 'u' :: rest =>
    (readCodePoint rest).bind fun n rest => readStringWithin fuel (Char.ofNat n :: before) rest
  | fuel + 1, before, '\\' :: c :: rest =>
    match escapedLetter? c with
    | some c => readStringWithin fuel (c :: before) rest
    | none => malformed .invalidEscape rest
  | fuel + 1, before, c :: rest =>
    if c.toNat < 0x20 then malformed .controlCharacter rest else readStringWithin fuel (c :: before) rest

def readString (cs : List Char) : Outcome String := readStringWithin (cs.length + 1) [] cs

/-- Passes over a string after its opening quote. Escapes must be well formed, but may name lone surrogates. -/
def skipStringWithin : (fuel : Nat) → List Char → Outcome Unit
  | 0, cs => malformed .endInString cs
  | _, [] => malformed .endInString []
  | _, '"' :: rest => .ok () rest
  | _, '\\' :: [] => malformed .endInString []
  | fuel + 1, '\\' :: 'u' :: rest => (readHex rest).bind fun _ rest => skipStringWithin fuel rest
  | fuel + 1, '\\' :: c :: rest =>
    if (escapedLetter? c).isSome then skipStringWithin fuel rest else malformed .invalidEscape rest
  | fuel + 1, c :: rest => if c.toNat < 0x20 then malformed .controlCharacter rest else skipStringWithin fuel rest

def skipString (cs : List Char) : Outcome Unit := skipStringWithin (cs.length + 1) cs

def skipExponent (cs : List Char) : Outcome Unit :=
  let cs := match cs with
    | '+' :: rest => rest
    | '-' :: rest => rest
    | _ => cs
  if cs.head?.any isDigit then .ok () (cs.dropWhile isDigit) else malformed .invalidNumber (cs.drop 1)

/-- Passes over a number after its sign, whatever its size. -/
def skipNumber (cs : List Char) : Outcome Unit :=
  let tail (rest : List Char) : Outcome Unit :=
    match rest with
    | '.' :: rest =>
      if rest.head?.any isDigit then
        match rest.dropWhile isDigit with
        | 'e' :: rest => skipExponent rest
        | 'E' :: rest => skipExponent rest
        | rest => .ok () rest
      else malformedAhead .invalidNumber rest
    | 'e' :: rest => skipExponent rest
    | 'E' :: rest => skipExponent rest
    | rest => .ok () rest
  match cs with
  | '0' :: rest => if rest.head?.any isDigit then malformedAhead .invalidNumber rest else tail rest
  | c :: rest => if isDigit c then tail (rest.dropWhile isDigit) else malformed .invalidNumber rest
  | [] => malformed .invalidNumber []

/-- An array or an object that is still open. -/
inductive Frame where
  | list
  | object
  deriving DecidableEq, Repr

def Frame.close : Frame → Char
  | .list => ']'
  | .object => Char.ofNat 0x7D

/-- Passes over a key and its colon, if the frame has keys. -/
def skipKey (frame : Frame) (cs : List Char) : Outcome Unit :=
  match frame with
  | .list => .ok () cs
  | .object =>
    match skipSpace cs with
    | [] => malformed .endInObject []
    | '"' :: rest =>
      (skipString rest).bind fun _ rest =>
        match skipSpace rest with
        | [] => malformed .endInObject []
        | ':' :: rest => .ok () rest
        | rest => malformed .expectedColon rest
    | rest => malformed .keyNotString rest

/-- What stands before the reader: a value, or what follows one. -/
inductive Place where
  | value
  | after

/-- Passes over the rest of a value with these frames open, the innermost first. There is no limit to their number. -/
def skipWithin : (fuel : Nat) → Place → List Frame → List Char → Outcome Unit
  | 0, _, _, cs => malformed .endInValue cs
  | fuel + 1, .value, frames, cs =>
    let opened (frame : Frame) (rest : List Char) : Outcome Unit :=
      match skipSpace rest with
      | [] => malformed (if frame = .list then .endInList else .endInObject) []
      | c :: rest' =>
        if c = frame.close then skipWithin fuel .after frames rest'
        else (skipKey frame (c :: rest')).bind fun _ rest => skipWithin fuel .value (frame :: frames) rest
    match skipSpace cs with
    | [] => malformed .endInValue []
    | 'n' :: rest => (readWord () "ull".toList rest).bind fun _ rest => skipWithin fuel .after frames rest
    | 't' :: rest => (readWord () "rue".toList rest).bind fun _ rest => skipWithin fuel .after frames rest
    | 'f' :: rest => (readWord () "alse".toList rest).bind fun _ rest => skipWithin fuel .after frames rest
    | '"' :: rest => (skipString rest).bind fun _ rest => skipWithin fuel .after frames rest
    | '-' :: rest => (skipNumber rest).bind fun _ rest => skipWithin fuel .after frames rest
    | '[' :: rest => opened .list rest
    | c :: rest =>
      if c = Char.ofNat 0x7B then opened .object rest
      else if isDigit c then (skipNumber (c :: rest)).bind fun _ rest => skipWithin fuel .after frames rest
      else malformed .expectedValue (c :: rest)
  | _, .after, [], cs => .ok () cs
  | fuel + 1, .after, frame :: frames, cs =>
    match skipSpace cs with
    | [] => malformed (if frame = .list then .endInList else .endInObject) []
    | c :: rest =>
      if c = ',' then (skipKey frame rest).bind fun _ rest => skipWithin fuel .value (frame :: frames) rest
      else if c = frame.close then skipWithin fuel .after frames rest
      else malformed (if frame = .list then .expectedListComma else .expectedObjectComma) (c :: rest)

/-- Passes over a value of any depth. -/
def skipValue (cs : List Char) : Outcome Unit := skipWithin (2 * cs.length + 2) .value [] cs

/-- Whether another item follows in an array, its comma read. -/
def nextItem (first : Bool) (cs : List Char) : Outcome Bool :=
  match skipSpace cs with
  | [] => malformed .endInList []
  | ']' :: rest => .ok false (']' :: rest)
  | c :: rest =>
    if first then .ok true (c :: rest)
    else if c != ',' then malformed .expectedListComma (c :: rest)
    else match skipSpace rest with
      | [] => malformed .endInValue []
      | ']' :: rest => malformed .trailingComma (']' :: rest)
      | rest => .ok true rest

/-- The next key of an object with its quotes read, if one follows. -/
def nextKey (first : Bool) (cs : List Char) : Outcome (Option String) :=
  match skipSpace cs with
  | [] => malformed .endInObject []
  | c :: rest =>
    if c = Char.ofNat 0x7D then .ok none (c :: rest)
    else if first then
      if c = '"' then (readString rest).map some else malformed .keyNotString (c :: rest)
    else if c != ',' then malformed .expectedObjectComma (c :: rest)
    else match skipSpace rest with
      | [] => malformed .endInValue []
      | '"' :: rest => (readString rest).map some
      | c :: rest => malformed (if c = Char.ofNat 0x7D then .trailingComma else .keyNotString) (c :: rest)

def readColon (cs : List Char) : Outcome Unit :=
  match skipSpace cs with
  | [] => malformed .endInObject []
  | ':' :: rest => .ok () rest
  | rest => malformed .expectedColon rest

/-- The end of an array whose items have been read as far as they are wanted. -/
def closeList (cs : List Char) : Outcome Unit :=
  match skipSpace cs with
  | [] => malformed .endInList []
  | ']' :: rest => .ok () rest
  | ',' :: rest =>
    match skipSpace rest with
    | ']' :: rest => malformed .trailingComma (']' :: rest)
    | rest => malformed .trailingCharacters rest
  | rest => malformed .trailingCharacters rest

def closeObject (cs : List Char) : Outcome Unit :=
  match skipSpace cs with
  | [] => malformed .endInObject []
  | c :: rest =>
    if c = Char.ofNat 0x7D then .ok () rest
    else malformed (if c = ',' then .trailingComma else .trailingCharacters) (c :: rest)

/-- The items of an array from number `index` on, each read by `item`. -/
def readItems {α : Type} (item : List Char → Outcome α) : (fuel index : Nat) → List Char → Outcome (List α)
  | 0, _, cs => malformed .endInList cs
  | fuel + 1, index, cs =>
    ((nextItem (index = 0) cs).within (.index index)).bind fun more rest =>
      if more then
        ((item rest).within (.index index)).bind fun a rest =>
          (readItems item fuel (index + 1) rest).map (a :: ·)
      else .ok [] rest

/-- The entries of an object, each taken into the state by `entry`, which reads the value of a key. -/
def readEntries {σ : Type} (entry : String → σ → List Char → Outcome σ) :
    (fuel : Nat) → (first : Bool) → σ → List Char → Outcome σ
  | 0, _, _, cs => malformed .endInObject cs
  | fuel + 1, first, state, cs =>
    ((nextKey first cs).within .unknown).bind fun key rest =>
      match key with
      | none => .ok state rest
      | some key => (entry key state rest).bind fun state rest => readEntries entry fuel false state rest

/-- The value of a key after its colon, with the key as a step. -/
def readUnder {α : Type} (key : String) (value : List Char → Outcome α) (cs : List Char) : Outcome α :=
  ((readColon cs).bind fun _ rest => value rest).within (.key key)

/-- A value of at most `depth - 1` nested arrays and objects. `build` makes an object of its entries, which come in
the order of the text. -/
def readAny (build : List (String × Json) → Json) : (depth : Nat) → List Char → Outcome Json
  | 0, cs => malformed .tooDeep cs
  | depth + 1, cs =>
    match skipSpace cs with
    | [] => malformed .endInValue []
    | 'n' :: rest => readWord .null "ull".toList rest
    | 't' :: rest => readWord (.flag true) "rue".toList rest
    | 'f' :: rest => readWord (.flag false) "alse".toList rest
    | '"' :: rest => (readString rest).map .text
    | '-' :: rest => readNumber true rest
    | '[' :: rest =>
      if depth = 0 then malformed .tooDeep ('[' :: rest)
      else (readItems (readAny build depth) (rest.length + 1) 0 rest).bind fun items rest =>
        (closeList rest).map fun _ => .array items
    | c :: rest =>
      if c = Char.ofNat 0x7B then
        if depth = 0 then malformed .tooDeep (c :: rest)
        else
          let entry (key : String) (entries : List (String × Json)) (cs : List Char) :=
            (readUnder key (readAny build depth) cs).map fun value => (key, value) :: entries
          (readEntries entry (rest.length + 1) true [] rest).bind fun entries rest =>
            (closeObject rest).map fun _ => build entries.reverse
      else if isDigit c then readNumber false (c :: rest)
      else malformed .expectedValue (c :: rest)

/-- Arrays and objects may be nested this deep, less one. -/
def depthLimit : Nat := 128

/-- A value as it is kept: an object has its keys in ascending order, each once. -/
def readValue (depth : Nat) (cs : List Char) : Outcome Json := readAny ofEntries depth cs

/-- A value as it is written: all entries in the order of the text. -/
def readWritten (depth : Nat) (cs : List Char) : Outcome Json := readAny .object depth cs

/-- Says what stands where something else is wanted. -/
def readUnwanted {α : Type} (wanted : String) (cs : List Char) : Outcome α :=
  let unwanted (found : Found) (rest : List Char) : Outcome α := mismatch (.wrongType found wanted) rest
  match skipSpace cs with
  | [] => malformed .endInValue []
  | 'n' :: rest => (readWord () "ull".toList rest).bind fun _ rest => unwanted .null rest
  | 't' :: rest => (readWord () "rue".toList rest).bind fun _ rest => unwanted (.flag true) rest
  | 'f' :: rest => (readWord () "alse".toList rest).bind fun _ rest => unwanted (.flag false) rest
  | '"' :: rest => (readString rest).bind fun s rest => unwanted (.text s) rest
  | '-' :: rest => (readNumber true rest).bind fun n rest => unwanted n.found rest
  | '[' :: rest => unwanted .sequence ('[' :: rest)
  | c :: rest =>
    if c = Char.ofNat 0x7B then unwanted .map (c :: rest)
    else if isDigit c then (readNumber false (c :: rest)).bind fun n rest => unwanted n.found rest
    else malformed .expectedValue (c :: rest)

def parse (s : String) : Except Failure Json :=
  match readValue depthLimit s.toList with
  | .fail e _ => .error e
  | .ok j rest => if (skipSpace rest).isEmpty then .ok j else .error { cause := .malformed .trailingCharacters }

/-- A place in a text: its line, counted from one, and the bytes of the line before it. -/
structure Position where
  line : Nat
  column : Nat
  deriving DecidableEq, Repr

/-- The place after some bytes of a line, or after its end. -/
def Position.advance (p : Position) (c : Char) (size : Nat) : Position :=
  if c = '\n' then ⟨p.line + 1, 0⟩ else ⟨p.line, p.column + size⟩

def Position.after (cs : List Char) : Position := cs.foldl (fun p c => p.advance c c.utf8Size) ⟨1, 0⟩

/-- Where the failure lies in a document of which `rest` has not been read. -/
def Failure.position (e : Failure) (document rest : List Char) : Position :=
  let p := Position.after (document.take (document.length - rest.length))
  match rest with
  | c :: _ => if e.ahead then p.advance c 1 else p
  | [] => p

def Failure.placedMessage (e : Failure) (document rest : List Char) : String :=
  let p := e.position document rest
  e.cause.message ++ " at line " ++ Text.ofNat p.line ++ " column " ++ Text.ofNat p.column

def Step.text : Step → String
  | .key name => name
  | .index i => "[" ++ Text.ofNat i ++ "]"
  | .unknown => "?"

/-- The steps of a path; a point stands before each but the first, except before places in arrays. -/
def pathText : List Step → String
  | [] => ""
  | step :: rest => rest.foldl (fun s step => s ++ (match step with
      | .index _ => ""
      | _ => ".") ++ step.text) step.text

/-- A failure with its path in front, if any step of it is known. -/
def Failure.message (e : Failure) : String :=
  if e.path.all (· == .unknown) then e.cause.message else pathText e.path ++ ": " ++ e.cause.message

end AssetRegistry.Json
