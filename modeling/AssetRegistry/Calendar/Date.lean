import AssetRegistry.Text.Blank
import AssetRegistry.Text.Numeral

namespace AssetRegistry

def daysInMonth (year : Int) (month : Nat) : Nat :=
  let leap := year % 4 = 0 && (year % 100 != 0 || year % 400 = 0)
  if month = 2 then (if leap then 29 else 28)
  else if month = 4 || month = 6 || month = 9 || month = 11 then 30
  else 31

/-- The calendar holds these years and no others. -/
def calendarYears : Int × Int := (-262143, 262142)

/-- Year, month and day name a day of the calendar. -/
def IsDate (year : Int) (month day : Nat) : Prop :=
  calendarYears.1 ≤ year ∧ year ≤ calendarYears.2 ∧ 1 ≤ month ∧ month ≤ 12 ∧ 1 ≤ day ∧ day ≤ daysInMonth year month

instance (year : Int) (month day : Nat) : Decidable (IsDate year month day) :=
  inferInstanceAs (Decidable (_ ∧ _))

/-- A date of the proleptic Gregorian calendar. -/
structure Date where
  year : Int
  month : Nat
  day : Nat
  isDate : IsDate year month day
  deriving DecidableEq

namespace Date

/-- Why a text is no date. -/
inductive Fault where
  | invalid
  | outOfRange
  | tooShort
  | trailing
  deriving DecidableEq, Repr

def Fault.message : Fault → String
  | .invalid => "input contains invalid characters"
  | .outOfRange => "input is out of range"
  | .tooShort => "premature end of input"
  | .trailing => "trailing input"

def before (a b : Date) : Bool :=
  a.year < b.year || a.year = b.year && (a.month < b.month || a.month = b.month && a.day < b.day)

/-- A date of the calendar, if the parts name one. -/
def of? (year : Int) (month day : Nat) : Option Date :=
  if h : IsDate year month day then some ⟨year, month, day, h⟩ else none

/-- Reads at most `width` digits, of which at least one must be there, and returns the rest. More digits than
64 bits can hold are out of range even before they end. -/
def readDigits (width : Nat) (cs : List Char) : Except Fault (Nat × List Char) :=
  match cs with
  | [] => .error .tooShort
  | c :: _ =>
    if (Text.digitValue? c).isNone then .error .invalid
    else
      let digits := (cs.take width).takeWhile fun c => (Text.digitValue? c).isSome
      match Text.digits? digits with
      | some n => if Int.ofNat n ≤ Int64.maxValue.toInt then .ok (n, cs.drop digits.length) else .error .outOfRange
      | none => .error .invalid

/-- Reads a year: four digits at most, or any number of them after a sign. -/
def readYear (cs : List Char) : Except Fault (Int × List Char) :=
  match cs with
  | '-' :: cs => (readDigits cs.length cs).map fun (n, rest) => (-(n : Int), rest)
  | '+' :: cs => (readDigits cs.length cs).map fun (n, rest) => ((n : Int), rest)
  | cs => (readDigits 4 cs).map fun (n, rest) => ((n : Int), rest)

def readHyphen : List Char → Except Fault (List Char)
  | '-' :: rest => .ok rest
  | [] => .error .tooShort
  | _ :: _ => .error .invalid

def skipBlanks (cs : List Char) : List Char := cs.dropWhile Text.isBlank

/-- Year, month and day with hyphens between them; blanks may stand before each part and each hyphen and at the end.
Each part is checked against its own bounds before the next one is read, the day of the month last. -/
def readChars (cs : List Char) : Except Fault Date := do
  let (year, cs) ← readYear (skipBlanks cs)
  if year < Int32.minValue.toInt || Int32.maxValue.toInt < year then throw .outOfRange
  let cs ← readHyphen (skipBlanks cs)
  let (month, cs) ← readDigits 2 (skipBlanks cs)
  if month < 1 || 12 < month then throw .outOfRange
  let cs ← readHyphen (skipBlanks cs)
  let (day, cs) ← readDigits 2 (skipBlanks cs)
  if day < 1 || 31 < day then throw .outOfRange
  if !(skipBlanks cs).isEmpty then throw .trailing
  match of? year month day with
  | some date => pure date
  | none => throw .outOfRange

def parse (s : String) : Except Fault Date := readChars s.toList

/-- A year has four digits; outside the years 0 to 9999 it also has a sign. -/
def yearText (year : Int) : String :=
  if 0 ≤ year && year ≤ 9999 then Text.padded 4 year.toNat
  else (if year < 0 then "-" else "+") ++ Text.padded 4 year.natAbs

def toText (d : Date) : String :=
  yearText d.year ++ "-" ++ Text.padded 2 d.month ++ "-" ++ Text.padded 2 d.day

/-- The days from the first of January 1970 to a day; the year is taken to begin in March, so that the leap day is its
last one. -/
def dayNumber (year : Int) (month day : Nat) : Int :=
  let y := if month ≤ 2 then year - 1 else year
  let era := y.fdiv 400
  let yearOfEra := y - era * 400
  let shifted : Int := (month + 9) % 12
  let dayOfYear := (153 * shifted + 2) / 5 + day - 1
  era * 146097 + yearOfEra * 365 + yearOfEra / 4 - yearOfEra / 100 + dayOfYear - 719468

def ofDayNumber (days : Int) : Int × Nat × Nat :=
  let z := days + 719468
  let era := z.fdiv 146097
  let dayOfEra := z - era * 146097
  let yearOfEra := (dayOfEra - dayOfEra / 1460 + dayOfEra / 36524 - dayOfEra / 146096) / 365
  let dayOfYear := dayOfEra - (365 * yearOfEra + yearOfEra / 4 - yearOfEra / 100)
  let shifted := (5 * dayOfYear + 2) / 153
  let day := dayOfYear - (153 * shifted + 2) / 5 + 1
  let month := if shifted < 10 then shifted + 3 else shifted - 9
  let year := yearOfEra + era * 400 + if month ≤ 2 then 1 else 0
  (year, month.toNat, day.toNat)

end Date

end AssetRegistry
