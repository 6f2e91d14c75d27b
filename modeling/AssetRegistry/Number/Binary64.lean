namespace AssetRegistry

/-- A double, given by its bits: sign, eleven bits of exponent, 52 bits of fraction. All arithmetic is exact on ratios of
natural numbers and rounds once, to the nearest double and to the even one of two. -/
structure Binary64 where
  bits : UInt64
  deriving DecidableEq, Repr

namespace Binary64

/-- The value of the sign's bit, which is the highest of the 64. -/
def signUnit : Nat := 0x8000000000000000

/-- The value of the lowest bit of the exponent, just above the fraction. -/
def exponentUnit : Nat := 0x10000000000000

def negative (d : Binary64) : Bool := signUnit ≤ d.bits.toNat

def magnitude (d : Binary64) : Nat := d.bits.toNat % signUnit

/-- The magnitude of an infinity; all greater ones are no numbers. -/
def infiniteMagnitude : Nat := 2047 * exponentUnit

def isFinite (d : Binary64) : Bool := d.magnitude < infiniteMagnitude

/-- The number with the given sign and magnitude bits. -/
def ofMagnitude (negative : Bool) (magnitude : Nat) : Binary64 :=
  ⟨.ofNat (magnitude + if negative then signUnit else 0)⟩

/-- The absolute value of a finite number is the first part times two to the second. -/
def parts (d : Binary64) : Nat × Int :=
  let exponent : Nat := d.magnitude / exponentUnit
  let fraction := d.magnitude % exponentUnit
  if exponent = 0 then (fraction, -1074) else (fraction + exponentUnit, (exponent : Int) - 1075)

/-- The quotient of two natural numbers, rounded to the nearest whole number and to the even one of two. -/
def roundDiv (num den : Nat) : Nat :=
  let quotient := num / den
  let twice := 2 * (num % den)
  if twice < den then quotient
  else if den < twice then quotient + 1
  else quotient + quotient % 2

/-- The ratio `num / den` times two to the `power`, as a ratio. -/
def scaleRatio (num den : Nat) (power : Int) : Nat × Nat :=
  if 0 ≤ power then (num <<< power.toNat, den) else (num, den <<< (-power).toNat)

/-- The place of the highest bit of `num / den`: the ratio lies between two to this power and its double. -/
def highestBit (num den : Nat) : Int :=
  let guess : Int := (Nat.log2 num : Int) - Nat.log2 den
  let (n, d) := scaleRatio num den (-guess)
  if n < d then guess - 1 else guess

/-- The magnitude of the double nearest to `num / den`. Overflow gives the infinite magnitude. -/
def roundRatio (num den : Nat) : Nat :=
  if num = 0 then 0
  else
    let unit := max (highestBit num den - 52) (-1074)
    let (n, d) := scaleRatio num den (-unit)
    min ((unit + 1074).toNat * exponentUnit + roundDiv n d) infiniteMagnitude

/-- The absolute value of a finite number as a ratio. -/
def ratio (d : Binary64) : Nat × Nat := scaleRatio d.parts.1 1 d.parts.2

def ofInt (n : Int) : Binary64 := ofMagnitude (n < 0) (roundRatio n.natAbs 1)

def powerOfTen (k : Nat) : Nat := roundRatio (Nat.pow 10 k) 1

def magnitudeRatio (magnitude : Nat) : Nat × Nat := ratio (ofMagnitude false magnitude)

/-- Divides a magnitude by the double nearest to ten to the `k`. -/
def divPower (magnitude k : Nat) : Nat :=
  let (n, d) := magnitudeRatio magnitude
  let (pn, pd) := magnitudeRatio (powerOfTen k)
  roundRatio (n * pd) (d * pn)

/-- Multiplies a magnitude by the double nearest to ten to the `k`. -/
def mulPower (magnitude k : Nat) : Nat :=
  let (n, d) := magnitudeRatio magnitude
  let (pn, pd) := magnitudeRatio (powerOfTen k)
  roundRatio (n * pn) (d * pd)

/-- Moves the decimal point of a magnitude by `places`, at most 308 places in a step and rounding at each. Far to the
left the value runs out after at most three steps; `none` if the result is too great. -/
def shiftPoint : (steps : Nat) → (magnitude : Nat) → (places : Int) → Option Nat
  | 0, _, _ => some 0
  | steps + 1, magnitude, places =>
    if places.natAbs ≤ 308 then
      if 0 ≤ places then
        let shifted := mulPower magnitude places.natAbs
        if shifted < infiniteMagnitude then some shifted else none
      else some (divPower magnitude places.natAbs)
    else if magnitude = 0 then some 0
    else if 0 ≤ places then none
    else shiftPoint steps (divPower magnitude 308) (places + 308)

/-- The double for decimal digits with the point moved by `places`: the digits are rounded first, then scaled.
`none` if it is too great. -/
def ofDecimal? (negative : Bool) (digits : Nat) (places : Int) : Option Binary64 :=
  (shiftPoint 4 (roundRatio digits 1) places).map (ofMagnitude negative)

end Binary64

end AssetRegistry
