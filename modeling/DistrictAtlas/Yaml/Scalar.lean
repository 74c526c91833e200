import DistrictAtlas.Value
import DistrictAtlas.Yaml.Fault

/-!
# The kinds of plain scalars

A scalar without quotes may be a null, a truth value, a whole number or a number with a point, by the
rules of YAML 1.1; anything else is a text. Whole numbers may be binary, octal with a leading zero,
hexadecimal, or in groups of sixty; underscores between digits do not count. A number with a point may
be in groups of sixty too: its groups are added up from the last one, and each step is rounded. Dates
are texts.
-/

namespace DistrictAtlas.Yaml

/-- The words for null. -/
def nullWords : List String := ["", "~", "null", "Null", "NULL"]

/-- The words for true. -/
def trueWords : List String :=
  ["yes", "Yes", "YES", "true", "True", "TRUE", "on", "On", "ON"]

/-- The words for false. -/
def falseWords : List String :=
  ["no", "No", "NO", "false", "False", "FALSE", "off", "Off", "OFF"]

/-- The sign in front of a number, and the rest. -/
def sign : List Char → Bool × List Char
  | '-' :: rest => (true, rest)
  | '+' :: rest => (false, rest)
  | cs => (false, cs)

/-- Whether the characters are a first one of a kind and others of a kind. -/
def isRun (first others : Char → Bool) : List Char → Bool
  | [] => false
  | c :: rest => first c && rest.all others

/-- A digit or an underscore. -/
def isLooseDigit (c : Char) : Bool := Digits.isDigit c || c = '_'

/-- The value of a digit in a base up to sixteen. -/
def digitValue (c : Char) : Nat :=
  let n := c.toNat
  if n < 0x3A then n - 0x30 else if n < 0x60 then n - 0x37 else n - 0x57

/-- The number that digits write in a base. -/
def inBase (base : Nat) (digits : List Char) : Nat :=
  digits.foldl (fun n c => base * n + digitValue c) 0

/-- Whether the characters are a group of sixty behind a colon: one digit, or two of which the first
is below six. -/
def isSixty : List Char → Bool
  | [a] => Digits.isDigit a
  | [a, b] => '0' ≤ a && a ≤ '5' && Digits.isDigit b
  | _ => false

/-- The parts between colons. -/
def colonParts (cs : List Char) : List (List Char) :=
  cs.foldr (fun c parts =>
    if c = ':' then [] :: parts
    else match parts with
      | [] => [[c]]
      | part :: rest => (c :: part) :: rest) [[]]

/-- The characters without the underscores. -/
def tight (digits : List Char) : List Char := digits.filter (· ≠ '_')

/-- A whole number with its sign. -/
def signedInt (negative : Bool) (n : Nat) : Scalar := .int (if negative then -n else n)

/-- The whole number that digits in a base of their own write; there have to be some. -/
def baseInt (negative : Bool) (base : Nat) (digits : List Char) : Except Fault Scalar :=
  match tight digits with
  | [] => .error (.noDigits base)
  | digits => .ok (signedInt negative (inBase base digits))

/-- The whole number that groups of sixty write; only the first group can be long, and what it may
hold is limited. -/
def groupsInt (negative : Bool) (first : List Char) (groups : List (List Char)) :
    Except Fault Scalar :=
  match Digits.read (tight first) with
  | .error refusal => .error (.digits refusal)
  | .ok n =>
    .ok (signedInt negative (groups.foldl (fun n group => 60 * n + Digits.toNat group) n))

/-- The whole number of a word without its sign, if it is one. -/
def int? (negative : Bool) (cs : List Char) : Option (Except Fault Scalar) :=
  match cs with
  | ['0'] => some (.ok (signedInt negative 0))
  | '0' :: 'b' :: rest =>
    let isBinary := fun (c : Char) => c = '0' || c = '1' || c = '_'
    if isRun isBinary isBinary rest then some (baseInt negative 2 rest) else none
  | '0' :: 'x' :: rest =>
    let isHex := fun (c : Char) => isLooseDigit c || ('a' ≤ c && c ≤ 'f') || ('A' ≤ c && c ≤ 'F')
    if isRun isHex isHex rest then some (baseInt negative 16 rest) else none
  | '0' :: rest =>
    if rest.all fun c => ('0' ≤ c && c ≤ '7') || c = '_' then
      some (.ok (signedInt negative (inBase 8 (tight rest))))
    else none
  | _ =>
    match colonParts cs with
    | [] => none
    | first :: groups =>
      if isRun (fun c => '1' ≤ c && c ≤ '9') isLooseDigit first && groups.all isSixty then
        some (groupsInt negative first groups)
      else none

/-- The exponent behind a number with a point: a letter, a sign and digits, or nothing. -/
def exponent? : List Char → Option Int
  | [] => some 0
  | e :: s :: digits =>
    if (e = 'e' || e = 'E') && (s = '+' || s = '-') && isRun Digits.isDigit Digits.isDigit digits then
      let n : Int := Digits.toNat digits
      some (if s = '-' then -n else n)
    else none
  | _ => none

/-- A number by its digits before and behind the point and its exponent. -/
def pointNumber (negative : Bool) (whole fraction : List Char) (exponent : Int) : Scalar :=
  let digits := whole ++ fraction
  .real (Binary64.ofDecimal negative (Digits.toNat digits) digits.length
    (exponent - fraction.length))

/-- The nearest point number to what digits write before and behind a point. -/
def pointPart (whole fraction : List Char) : Binary64 :=
  Binary64.ofDecimal false (Digits.toNat (whole ++ fraction)) (whole ++ fraction).length
    (-fraction.length)

/-- The sum of the groups, the last one first, onto what is there already; `unit` is what one in the
next group counts. -/
def addGroups (sum : Binary64) (unit : Nat) : List Binary64 → Except Fault Binary64
  | [] => .ok sum
  | group :: rest =>
    match Binary64.ofInt unit with
    | .infinite _ => .error .tooManyGroups
    | factor => addGroups (sum.add (group.mul factor)) (unit * 60) rest

/-- The number in groups of sixty whose last group has a point. -/
def groupsReal (negative : Bool) (groups : List (List Char)) (whole fraction : List Char) :
    Except Fault Scalar :=
  let parts := pointPart whole fraction :: groups.reverse.map fun group => pointPart (tight group) []
  (addGroups (Binary64.zero false) 1 parts).map fun sum =>
    .real (if negative then sum.negate else sum)

/-- The words behind a point for infinity. -/
def infinityWords : List (List Char) := ["inf".toList, "Inf".toList, "INF".toList]

/-- The words behind a point for what is no number. -/
def noNumberWords : List (List Char) := ["nan".toList, "NaN".toList, "NAN".toList]

/-- The number of a word that begins with a point behind its sign, if it is one. -/
def pointFirst? (hasSign negative : Bool) (behind : List Char) : Option Scalar :=
  if infinityWords.contains behind then some (.real (.infinite negative))
  else if hasSign then none
  else if noNumberWords.contains behind then some (.real .nan)
  else
    let fraction := behind.takeWhile isLooseDigit
    if isRun Digits.isDigit isLooseDigit fraction then
      (exponent? (behind.dropWhile isLooseDigit)).map (pointNumber false [] (tight fraction))
    else none

/-- The number in groups of sixty with these characters before and behind its point, if it is one. -/
def groupsReal? (negative : Bool) (before behind : List Char) : Option (Except Fault Scalar) :=
  match colonParts before with
  | first :: second :: others =>
    if isRun Digits.isDigit isLooseDigit first && (second :: others).all isSixty &&
        behind.all isLooseDigit then
      some (groupsReal negative (first :: second :: others).dropLast
        ((second :: others).getLastD []) (tight behind))
    else none
  | _ => none

/-- The number with a point of a word, if it is one. -/
def real? (cs : List Char) : Option (Except Fault Scalar) :=
  let (negative, unsigned) := sign cs
  let before := unsigned.takeWhile (· ≠ '.')
  match unsigned.dropWhile (· ≠ '.') with
  | [] => none
  | _ :: behind =>
    if before.isEmpty then
      (pointFirst? (unsigned.length ≠ cs.length) negative behind).map .ok
    else if isRun Digits.isDigit isLooseDigit before then
      (exponent? (behind.dropWhile isLooseDigit)).map fun exponent =>
        .ok (pointNumber negative (tight before) (tight (behind.takeWhile isLooseDigit)) exponent)
    else groupsReal? negative before behind

/-- The scalar of a word without quotes. The words for merging mappings and for a default value are
refused. -/
def plainScalar (word : String) : Except Fault Scalar :=
  if nullWords.contains word then .ok .null
  else if trueWords.contains word then .ok (.bool true)
  else if falseWords.contains word then .ok (.bool false)
  else if word = "<<" ∨ word = "=" then .error .malformed
  else
    let cs := word.toList
    match real? cs with
    | some result => result
    | none =>
      let (negative, unsigned) := sign cs
      match int? negative unsigned with
      | some result => result
      | none => .ok (.text word)

end DistrictAtlas.Yaml
