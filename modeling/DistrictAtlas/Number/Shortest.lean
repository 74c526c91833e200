import DistrictAtlas.Number.Binary64
import DistrictAtlas.Number.Digits

/-!
# Shortest decimals

The decimal text of a double: the fewest digits that read back as the same number, and of those the
nearest to it. The text is positional while the first digit stands between the fourth place behind
the point and the sixteenth before it, and scientific otherwise. All work is done on whole numbers.
-/

namespace DistrictAtlas.Shortest

/-- A decimal `digits * 10 ^ power`. -/
structure Decimal where
  /-- Significant digits as a whole number. -/
  digits : Nat
  /-- Power of ten of the last digit. -/
  power : Int
deriving DecidableEq, Repr

/-- Whether `a / b ≤ c / d`, for positive denominators. -/
def ratioLe (a b c d : Nat) : Bool := a * d ≤ c * b

/-- A positive quotient times a power of ten. -/
def scaleUp (num den : Nat) (power : Int) : Nat × Nat :=
  if power < 0 then (num, den * Nat.pow 10 power.natAbs) else (num * Nat.pow 10 power.natAbs, den)

/-- Counts, from `count` on, the places behind the point before the first digit other than zero of
a quotient below one; no number of the double format has more than `fuel` of them. -/
def leadingZeros : (fuel count num den : Nat) → Nat
  | 0, count, _, _ => count
  | fuel + 1, count, num, den =>
    if den ≤ num * 10 then count else leadingZeros fuel (count + 1) (num * 10) den

/-- The power of ten of the first digit of a positive quotient. -/
def leadingPower (num den : Nat) : Int :=
  if den ≤ num then ((Digits.ofNat (num / den)).length : Int) - 1
  else -1 - (leadingZeros 400 0 num den : Int)

/-- The numbers that read back as a given double: those between `low / den` and `high / den`, the
ends included when `closed`, around the double itself, `mid / den`. -/
structure Neighbourhood where
  /-- Numerator of the lower end. -/
  low : Nat
  /-- Numerator of the double. -/
  mid : Nat
  /-- Numerator of the upper end. -/
  high : Nat
  /-- The common denominator. -/
  den : Nat
  /-- Whether the ends read back as the double. -/
  closed : Bool

/-- The neighbourhood of `significand * 2 ^ power`. Below a power of two the next number is only half
as far away. -/
def neighbourhood (significand : Nat) (power : Int) : Neighbourhood :=
  let lowGap := if significand = Nat.pow 2 52 ∧ power ≠ Binary64.leastPower then 1 else 2
  let unit := if power - 2 < 0 then 1 else Nat.pow 2 (power - 2).natAbs
  { low := (4 * significand - lowGap) * unit
    mid := 4 * significand * unit
    high := (4 * significand + 2) * unit
    den := if power - 2 < 0 then Nat.pow 2 (power - 2).natAbs else 1
    closed := significand % 2 = 0 }

/-- Whether the decimal reads back as the double. -/
def Neighbourhood.holds (near : Neighbourhood) (decimal : Decimal) : Bool :=
  let (num, den) := scaleUp decimal.digits 1 decimal.power
  if near.closed then ratioLe near.low near.den num den && ratioLe num den near.high near.den
  else !ratioLe num den near.low near.den && !ratioLe near.high near.den num den

/-- The decimal with the given last place that reads back as the double and is nearest to it, an
exact tie going to the even digit. Only the two decimals around the double can be. -/
def Neighbourhood.atPlace (near : Neighbourhood) (power : Int) : Option Decimal :=
  let (num, den) := scaleUp near.mid near.den (-power)
  let below : Decimal := ⟨num / den, power⟩
  let above : Decimal := ⟨num / den + 1, power⟩
  let twice := 2 * (num % den)
  match near.holds below, near.holds above with
  | true, true =>
    if twice < den ∨ (twice = den ∧ num / den % 2 = 0) then some below else some above
  | true, false => some below
  | false, true => some above
  | false, false => none

/-- The shortest decimal that reads back as the double: the first hit with one digit, two, and so on
up to seventeen, which always suffice. -/
def Neighbourhood.shortest (near : Neighbourhood) : Decimal :=
  let leading := leadingPower near.mid near.den
  ((List.range 17).findSome? fun (i : Nat) => near.atPlace (leading - i)).getD ⟨near.mid / near.den, 0⟩

/-- The text of a positive decimal whose digits are given most significant first and whose first
digit stands at `leading`. -/
def layout (digits : List Char) (leading : Int) : List Char :=
  if -4 ≤ leading ∧ leading < 0 then
    '0' :: '.' :: (List.replicate (leading.natAbs - 1) '0' ++ digits)
  else if 0 ≤ leading ∧ leading < 16 then
    let whole := leading.toNat + 1
    if digits.length ≤ whole then
      digits ++ List.replicate (whole - digits.length) '0' ++ ['.', '0']
    else digits.take whole ++ '.' :: digits.drop whole
  else
    let tail := match digits.drop 1 with
      | [] => []
      | rest => '.' :: rest
    let exponent := Digits.ofNat leading.natAbs
    let padded := if exponent.length < 2 then '0' :: exponent else exponent
    digits.take 1 ++ tail ++ 'e' :: (if leading < 0 then '-' else '+') :: padded

/-- The digits up to the last one that is not zero. -/
def withoutFinalZeros (digits : List Char) : List Char :=
  (digits.reverse.dropWhile (· = '0')).reverse

/-- The text of a finite double without its sign. -/
def unsigned (significand : Nat) (power : Int) : List Char :=
  if significand = 0 then ['0', '.', '0']
  else
    let decimal := (neighbourhood significand power).shortest
    let digits := Digits.ofNat decimal.digits
    layout (withoutFinalZeros digits) (decimal.power + digits.length - 1)

end DistrictAtlas.Shortest

namespace DistrictAtlas.Binary64

/-- How a text spells the doubles that are not finite. -/
structure Spelling where
  /-- Not a number. -/
  nan : String
  /-- Positive infinity. -/
  infinity : String

/-- The spelling inside messages and tables. -/
def plainSpelling : Spelling := ⟨"nan", "inf"⟩

/-- The spelling inside JSON. -/
def jsonSpelling : Spelling := ⟨"NaN", "Infinity"⟩

/-- The text of a double. -/
def text (spelling : Spelling) : Binary64 → String
  | nan => spelling.nan
  | infinite negative => (if negative then "-" else "") ++ spelling.infinity
  | finite negative significand power =>
    let digits := Shortest.unsigned significand power
    String.ofList (if negative then '-' :: digits else digits)

end DistrictAtlas.Binary64
