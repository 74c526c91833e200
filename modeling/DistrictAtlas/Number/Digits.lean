/-!
# Decimal digits

Whole numbers as decimal text and back. A number of more than 4300 digits is not written out, and
such a numeral is not read where a plain whole number is wanted: the conversions refuse it instead
of spending quadratic time. Grouping puts a comma before each group of three digits.
-/

namespace DistrictAtlas.Digits

/-- The greatest number of digits that is written or read. -/
def limit : Nat := 4300

/-- Whether the number has more digits than are written. -/
def tooLong (n : Int) : Bool :=
  decide (Nat.pow 10 limit ≤ n.natAbs)

/-- Why a number was not converted. -/
inductive Refusal where
  /-- The number has too many digits to be written. -/
  | writing
  /-- The numeral has this many digits, too many to be read. -/
  | reading (digits : Nat)
deriving DecidableEq, Repr

/-- The wording of a refusal. -/
def Refusal.message : Refusal → String
  | .writing => "Exceeds the limit (4300 digits) for integer string conversion; " ++
      "use sys.set_int_max_str_digits() to increase the limit"
  | .reading digits => s!"Exceeds the limit (4300 digits) for integer string conversion: " ++
      s!"value has {digits} digits; use sys.set_int_max_str_digits() to increase the limit"

/-- The digits of a whole number, most significant first. -/
def ofNat (n : Nat) : List Char :=
  Nat.toDigits 10 n

/-- The digits of a number, after a minus sign when it is negative. -/
def ofInt (n : Int) : List Char :=
  if n < 0 then '-' :: ofNat n.natAbs else ofNat n.natAbs

/-- The text of a number. -/
def text (n : Int) : Except Refusal String :=
  if tooLong n then .error .writing else .ok (String.ofList (ofInt n))

/-- Puts a comma before each group of three, counted from the right end; the characters come in
reverse and `used` says how many of the current group stand to the right. -/
def groupReversed : Nat → List Char → List Char
  | _, [] => []
  | 3, c :: rest => ',' :: c :: groupReversed 1 rest
  | used, c :: rest => c :: groupReversed (used + 1) rest

/-- The digits with a comma before each group of three. -/
def group (digits : List Char) : List Char :=
  (groupReversed 0 digits.reverse).reverse

/-- A number with its thousands separated, after a minus sign when it is negative. -/
def grouped (n : Int) : List Char :=
  if n < 0 then '-' :: group (ofNat n.natAbs) else group (ofNat n.natAbs)

/-- The text of a number with its thousands separated. -/
def groupedText (n : Int) : Except Refusal String :=
  if tooLong n then .error .writing else .ok (String.ofList (grouped n))

/-- Whether the character is one of the ten digits. -/
def isDigit (c : Char) : Bool := '0' ≤ c && c ≤ '9'

/-- The value of one digit. -/
def value (c : Char) : Nat :=
  c.toNat - '0'.toNat

/-- The number that a row of digits writes. -/
def toNat (digits : List Char) : Nat :=
  digits.foldl (fun n c => 10 * n + value c) 0

/-- The number that a row of digits writes, where a plain whole number is wanted. -/
def read (digits : List Char) : Except Refusal Nat :=
  if limit < digits.length then .error (.reading digits.length) else .ok (toNat digits)

end DistrictAtlas.Digits
