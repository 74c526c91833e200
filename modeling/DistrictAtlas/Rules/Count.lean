import DistrictAtlas.Number.Digits
import DistrictAtlas.Text.Blank

/-!
# Counts

A count as people write it: digits with currency signs, separators and words around them. Everything
but digits, signs and points is passed over; what is left is a decimal numeral, of which the whole
part counts. A text that leaves no such numeral, or a negative one, counts as zero, and this is
reported unless the text was blank.
-/

namespace DistrictAtlas

/-- A count read from a text. -/
structure Count where
  /-- The count. -/
  value : Nat
  /-- Whether zero was put in place of something else. -/
  replaced : Bool
deriving DecidableEq, Repr

namespace Count

/-- Whether the character can belong to a numeral. -/
def isNumeral (c : Char) : Bool :=
  Digits.isDigit c || c = '+' || c = '-' || c = '.'

/-- The sign in front of a numeral, and the rest. -/
def sign : List Char → Bool × List Char
  | '-' :: rest => (true, rest)
  | '+' :: rest => (false, rest)
  | cs => (false, cs)

/-- The digits before and behind the point of an unsigned numeral. There may be no point, and there
has to be a digit. -/
def places? (cs : List Char) : Option (List Char × List Char) :=
  let whole := cs.takeWhile Digits.isDigit
  let parts := match cs.dropWhile Digits.isDigit with
    | [] => some (whole, [])
    | '.' :: fraction => if fraction.all Digits.isDigit then some (whole, fraction) else none
    | _ => none
  parts.filter fun (whole, fraction) => !whole.isEmpty || !fraction.isEmpty

/-- The whole part of a numeral that is not negative; minus zero is not. -/
def numeral? (cs : List Char) : Option Nat :=
  let (negative, unsigned) := sign cs
  match places? unsigned with
  | none => none
  | some (whole, fraction) =>
    if negative && !(whole ++ fraction).all (· = '0') then none else some (Digits.toNat whole)

/-- The count that a text writes. -/
def read (text : String) : Count :=
  match text.toList.filter isNumeral with
  | [] => ⟨0, !Text.isBlankText text⟩
  | cs => match numeral? cs with
    | some n => ⟨n, false⟩
    | none => ⟨0, true⟩

end Count

end DistrictAtlas
