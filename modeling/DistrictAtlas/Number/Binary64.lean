/-!
# Double-precision numbers

The numbers of the double format, kept as sign, significand and power of two, so that comparison and
conversion are arithmetic on whole numbers. Reading a decimal rounds to the nearest number of the
format, a tie to the one with an even significand; beyond the greatest finite number lies infinity.
Sums and products are rounded in the same way.
-/

namespace DistrictAtlas

/-- A number of the double format. The finite ones are `± significand * 2 ^ power`. -/
inductive Binary64 where
  /-- Not a number. -/
  | nan
  /-- Positive or negative infinity. -/
  | infinite (negative : Bool)
  /-- A finite number in its one normal form: the significand is below `2 ^ 53`, and at least
  `2 ^ 52` unless the power is `-1074`. -/
  | finite (negative : Bool) (significand : Nat) (power : Int)
deriving DecidableEq, Repr

namespace Binary64

/-- The least power of two of a finite number. -/
def leastPower : Int := -1074

/-- The greatest power of two of a finite number. -/
def greatestPower : Int := 971

/-- Zero with the given sign. -/
def zero (negative : Bool) : Binary64 := finite negative 0 leastPower

/-- The quotient of two whole numbers, rounded to the nearest, a tie to the even one. -/
def divideNearest (num den : Nat) : Nat :=
  let quotient := num / den
  let twice := 2 * (num % den)
  if twice < den then quotient
  else if twice = den then quotient + quotient % 2
  else quotient + 1

/-- Numerator and denominator of a quotient divided by a power of two. -/
def scaleDown (num den : Nat) (power : Int) : Nat × Nat :=
  if power < 0 then (num * Nat.pow 2 power.natAbs, den) else (num, den * Nat.pow 2 power.natAbs)

/-- The power of two that leaves a whole part of fifty-three binary digits, but no power below the
least one. -/
def powerOf (num den : Nat) : Int :=
  let guess : Int := (num.log2 : Int) - (den.log2 : Int) - 52
  let (scaled, by') := scaleDown num den guess
  max leastPower (if scaled / by' < Nat.pow 2 52 then guess - 1 else guess)

/-- The nearest number of the format to a quotient of whole numbers. -/
def ofRatio (negative : Bool) (num den : Nat) : Binary64 :=
  if num = 0 then zero negative
  else
    let power := powerOf num den
    let (scaled, by') := scaleDown num den power
    let significand := divideNearest scaled by'
    let (significand, power) :=
      if significand = Nat.pow 2 53 then (Nat.pow 2 52, power + 1) else (significand, power)
    if greatestPower < power then infinite negative else finite negative significand power

/-- The nearest number of the format to `± digits * 10 ^ power`, where `digits` has `size` decimal
digits at most. Powers that can only give zero or infinity are not computed. -/
def ofDecimal (negative : Bool) (digits size : Nat) (power : Int) : Binary64 :=
  if digits = 0 then zero negative
  else if 400 < power + size ∧ 400 < power then infinite negative
  else if power + size < -400 then zero negative
  else if power < 0 then ofRatio negative digits (Nat.pow 10 power.natAbs)
  else ofRatio negative (digits * Nat.pow 10 power.natAbs) 1

/-- The nearest number of the format to a whole number. -/
def ofInt (n : Int) : Binary64 :=
  ofRatio (n < 0) n.natAbs 1

/-- The nearest number of the format to `± n * 2 ^ power`. -/
def ofScaled (negative : Bool) (n : Nat) (power : Int) : Binary64 :=
  if power < 0 then ofRatio negative n (Nat.pow 2 power.natAbs)
  else ofRatio negative (n * Nat.pow 2 power.natAbs) 1

/-- The number with the other sign. -/
def negate : Binary64 → Binary64
  | nan => nan
  | infinite negative => infinite !negative
  | finite negative significand power => finite (!negative) significand power

/-- The significand with its sign. -/
def signed (negative : Bool) (significand : Nat) : Int :=
  if negative then -significand else significand

/-- The nearest number to the sum of two. A sum of zero is negative only if both numbers are. -/
def add : Binary64 → Binary64 → Binary64
  | nan, _ => nan
  | _, nan => nan
  | infinite a, infinite b => if a = b then infinite a else nan
  | infinite a, finite .. => infinite a
  | finite .., infinite b => infinite b
  | finite a m p, finite b n q =>
    let power := min p q
    let sum :=
      signed a (m * Nat.pow 2 (p - power).natAbs) + signed b (n * Nat.pow 2 (q - power).natAbs)
    if sum = 0 then zero (a && b) else ofScaled (sum < 0) sum.natAbs power

/-- The nearest number to the product of two. -/
def mul : Binary64 → Binary64 → Binary64
  | nan, _ => nan
  | _, nan => nan
  | infinite a, infinite b => infinite (a != b)
  | infinite a, finite b n _ => if n = 0 then nan else infinite (a != b)
  | finite a m _, infinite b => if m = 0 then nan else infinite (a != b)
  | finite a m p, finite b n q => ofScaled (a != b) (m * n) (p + q)

/-- The whole number that the number is, if it is one. -/
def whole? : Binary64 → Option Int
  | finite negative significand power =>
    if 0 ≤ power then some (signed negative (significand * Nat.pow 2 power.natAbs))
    else if significand % Nat.pow 2 power.natAbs = 0 then
      some (signed negative (significand / Nat.pow 2 power.natAbs))
    else none
  | _ => none

/-- Whether the number is zero or lies above it; not-a-number does not. -/
def isNonnegative : Binary64 → Bool
  | nan => false
  | infinite negative => !negative
  | finite negative significand _ => !negative || significand == 0

/-- Whether the number is one or lies below it; not-a-number does not. -/
def isAtMostOne : Binary64 → Bool
  | nan => false
  | infinite negative => negative
  | finite negative significand power =>
    negative || (decide (power ≤ 0) && decide (significand ≤ Nat.pow 2 power.natAbs))

/-- Whether the number lies between zero and one, ends included. -/
def isUnit (x : Binary64) : Bool :=
  x.isNonnegative && x.isAtMostOne

end Binary64

end DistrictAtlas
