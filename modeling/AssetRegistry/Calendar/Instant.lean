import AssetRegistry.Calendar.Date

namespace AssetRegistry

/-- A point in time, counted in microseconds from the beginning of 1970 in UTC, as the store keeps it. -/
structure Instant where
  micros : Int
  deriving DecidableEq, Repr

namespace Instant

/-- Whole seconds since the beginning of 1970, rounded towards the past. -/
def seconds (t : Instant) : Int := t.micros.fdiv 1000000

def ofSeconds (s : Int) : Instant := ⟨s * 1000000⟩

/-- The calendar reaches from the first to the last of these seconds. -/
def calendarSeconds : Int × Int :=
  (Date.dayNumber calendarYears.1 1 1 * 86400, Date.dayNumber calendarYears.2 12 31 * 86400 + 86399)

/-- The instant some seconds later, if the calendar still holds it. -/
def addSeconds? (t : Instant) (seconds : Int) : Option Instant :=
  let later : Instant := ⟨t.micros + seconds * 1000000⟩
  if calendarSeconds.1 ≤ later.seconds && later.seconds ≤ calendarSeconds.2 then some later else none

/-- The fraction of a second with none, three or six digits, as few as it needs. -/
def fractionText (micros : Nat) : String :=
  if micros = 0 then ""
  else if micros % 1000 = 0 then "." ++ Text.padded 3 (micros / 1000)
  else "." ++ Text.padded 6 micros

/-- Date and time of day in UTC, marked by a final Z. -/
def toText (t : Instant) : String :=
  let seconds := t.seconds
  let days := seconds.fdiv 86400
  let (year, month, day) := Date.ofDayNumber days
  let second := (seconds - days * 86400).toNat
  Date.yearText year ++ "-" ++ Text.padded 2 month ++ "-" ++ Text.padded 2 day ++ "T" ++
    Text.padded 2 (second / 3600) ++ ":" ++ Text.padded 2 (second / 60 % 60) ++ ":" ++ Text.padded 2 (second % 60) ++
    fractionText (t.micros - seconds * 1000000).toNat ++ "Z"

def readField (width : Nat) (cs : List Char) : Option (Nat × List Char) := do
  let n ← Text.digits? (cs.take width)
  if (cs.take width).length = width then some (n, cs.drop width) else none

def readMark (mark : Char) : List Char → Option (List Char)
  | c :: rest => if c = mark then some rest else none
  | [] => none

/-- Reads an optional fraction of a second; digits beyond the sixth are dropped. -/
def readFraction : List Char → Option (Nat × List Char)
  | '.' :: cs =>
    let digits := cs.takeWhile fun c => (Text.digitValue? c).isSome
    (Text.digits? ((digits ++ List.replicate 6 '0').take 6)).map fun n => (n, cs.drop digits.length)
  | cs => some (0, cs)

def readZone : List Char → Option (Int × List Char)
  | 'Z' :: rest => some (0, rest)
  | sign :: cs => do
    let (hours, cs) ← readField 2 cs
    let cs ← readMark ':' cs
    let (minutes, cs) ← readField 2 cs
    if sign = '+' then some ((hours * 60 + minutes : Nat), cs)
    else if sign = '-' then some (-((hours * 60 + minutes : Nat) : Int), cs)
    else none
  | [] => none

/-- Reads date, time of day and zone, the date from year to day with four, two and two digits. -/
def parse? (s : String) : Option Instant := do
  let (year, cs) ← readField 4 s.toList
  let cs ← readMark '-' cs
  let (month, cs) ← readField 2 cs
  let cs ← readMark '-' cs
  let (day, cs) ← readField 2 cs
  let date ← Date.of? year month day
  let cs ← readMark 'T' cs
  let (hour, cs) ← readField 2 cs
  let cs ← readMark ':' cs
  let (minute, cs) ← readField 2 cs
  let cs ← readMark ':' cs
  let (second, cs) ← readField 2 cs
  let (micros, cs) ← readFraction cs
  let (zone, cs) ← readZone cs
  if !cs.isEmpty then none
  let seconds := Date.dayNumber date.year date.month date.day * 86400 + hour * 3600 + (minute - zone) * 60 + second
  some ⟨seconds * 1000000 + micros⟩

end Instant

end AssetRegistry
