import AssetRegistry.Number.Binary64
import AssetRegistry.Text.Numeral

namespace AssetRegistry.Binary64

/-- The numbers that round to a positive finite double lie between two ends; `closed` tells whether the ends belong.
The ends and the value itself are whole multiples of two to `unit`. -/
structure Basin where
  low : Nat
  value : Nat
  high : Nat
  unit : Int
  closed : Bool

/-- Below a power of two the doubles lie twice as close. -/
def basin (d : Binary64) : Basin :=
  let (m, q) := d.parts
  { low := 4 * m - if m = exponentUnit && -1074 < q then 1 else 2
    value := 4 * m
    high := 4 * m + 2
    unit := q - 2
    closed := m % 2 = 0 }

/-- Compares `a` times ten to `power` with `b` times two to `unit`, both as whole numbers. -/
def crossScale (a : Nat) (power : Int) (b : Nat) (unit : Int) : Nat × Nat :=
  ((a * Nat.pow 10 power.toNat) <<< (-unit).toNat, (b * Nat.pow 10 (-power).toNat) <<< unit.toNat)

/-- The decimal `digits` times ten to `power` reads back as the number. -/
def Basin.holds (b : Basin) (digits : Nat) (power : Int) : Bool :=
  let (dl, low) := crossScale digits power b.low b.unit
  let (dh, high) := crossScale digits power b.high b.unit
  if b.closed then low ≤ dl && dh ≤ high else low < dl && dh < high

/-- The whole part of the value divided by ten to `power`. -/
def Basin.grid (b : Basin) (power : Int) : Nat :=
  let (ten, value) := crossScale 1 power b.value b.unit
  value / ten

/-- The greatest power of ten that is not above the value, searched downwards from 308. -/
def Basin.leadingPower (b : Basin) : (fuel : Nat) → Int → Int
  | 0, power => power
  | fuel + 1, power => if b.grid power = 0 then b.leadingPower fuel (power - 1) else power

/-- The distance of a decimal from the value, in units common to all decimals of one power. -/
def Basin.distance (b : Basin) (digits : Nat) (power : Int) : Nat :=
  let (d, v) := crossScale digits power b.value b.unit
  (d - v) + (v - d)

/-- The nearer to the value of two neighbours on the grid of a power; of two that are equally near, the even one. -/
def Basin.nearer (b : Basin) (below : Nat) (power : Int) : Nat :=
  let downwards := b.distance below power
  let upwards := b.distance (below + 1) power
  if upwards < downwards || (upwards = downwards && below % 2 = 1) then below + 1 else below

def Basin.search (b : Basin) (leading : Int) : (fuel count : Nat) → Nat × Int
  | 0, count => (b.grid (leading - count + 1), leading - count + 1)
  | fuel + 1, count =>
    let power := leading - count + 1
    let below := b.grid power
    match b.holds below power && below != 0, b.holds (below + 1) power with
    | true, true => (b.nearer below power, power)
    | true, false => (below, power)
    | false, true => (below + 1, power)
    | false, false => b.search leading fuel (count + 1)

/-- The shortest decimal of a positive finite double, as digits and a power of ten: the fewest digits that read back as
the number, and of those the nearest; of two that are equally near, the even one. -/
def shortest (d : Binary64) : Nat × Int :=
  let b := d.basin
  b.search (b.leadingPower 640 308) 17 1

def stripZeros : (fuel : Nat) → Nat × Int → Nat × Int
  | 0, decimal => decimal
  | fuel + 1, (digits, power) =>
    if digits != 0 && digits % 10 = 0 then stripZeros fuel (digits / 10, power + 1) else (digits, power)

/-- How a decimal is laid out: the exponents written with plain places. -/
structure Layout where
  plainFrom : Int
  plainBelow : Int

/-- Values from a hundred thousandth up to ten quadrillions are written out, always with a point; all others carry an
exponent, which has a sign but no leading zeros. -/
def Layout.message : Layout := ⟨-5, 16⟩

def Layout.write (layout : Layout) (digits : Nat) (power : Int) : List Char :=
  let ds := Nat.toDigits 10 digits
  let exponent : Int := ds.length + power - 1
  if layout.plainFrom ≤ exponent && exponent < layout.plainBelow then
    if 0 ≤ power then ds ++ List.replicate power.toNat '0' ++ ['.', '0']
    else if 0 ≤ exponent then ds.take (exponent.toNat + 1) ++ '.' :: ds.drop (exponent.toNat + 1)
    else '0' :: '.' :: List.replicate (-exponent - 1).toNat '0' ++ ds
  else
    let fraction := if ds.length = 1 then [] else '.' :: ds.drop 1
    let sign := if exponent < 0 then '-' else '+'
    ds.take 1 ++ fraction ++ ['e', sign] ++ Nat.toDigits 10 exponent.natAbs

/-- The text of a double in messages and documents. -/
def toText (d : Binary64) : String :=
  let sign := if d.negative then ['-'] else []
  if !d.isFinite then
    if d.magnitude = infiniteMagnitude then .ofList (sign ++ "inf".toList) else "NaN"
  else if d.magnitude = 0 then .ofList (sign ++ "0.0".toList)
  else
    let (digits, power) := stripZeros 17 (shortest d)
    .ofList (sign ++ Layout.message.write digits power)

end AssetRegistry.Binary64
