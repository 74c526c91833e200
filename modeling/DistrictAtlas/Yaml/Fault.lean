import DistrictAtlas.Number.Digits
import DistrictAtlas.Text.Utf8

/-!
# Faults of YAML texts

Why a YAML text gives no document. Most of what can be wrong is not told apart; numbers and characters
that are written well but cannot be had are.
-/

namespace DistrictAtlas.Yaml

/-- Why a text was not read. -/
inductive Fault where
  /-- The text is not YAML, or not of the part that is read. -/
  | malformed
  /-- The bytes are not a text. -/
  | encoding (fault : Utf8.Fault)
  /-- An escape has a number that no character has. -/
  | character (number : Nat)
  /-- A number is too long. -/
  | digits (refusal : Digits.Refusal)
  /-- A number in a base of its own has no digits. -/
  | noDigits (base : Nat)
  /-- A number in groups of sixty has so many groups that a point number cannot hold it. -/
  | tooManyGroups
  /-- Something else is wrong, which has a kind and is put in words. -/
  | other (kind message : String)
deriving DecidableEq, Repr

namespace Fault

/-- The number that no escape may reach if it is to be looked at at all. -/
def characterLimit : Nat := Nat.pow 2 31

/-- The wording of a fault. -/
def message : Fault → String
  | malformed => "not a YAML document"
  | encoding fault => fault.message
  | character number =>
    if number < characterLimit then "chr() arg not in range(0x110000)"
    else "Python int too large to convert to C int"
  | digits refusal => refusal.message
  | noDigits base => s!"invalid literal for int() with base {base}: ''"
  | tooManyGroups => "int too large to convert to float"
  | other _ message => message

/-- The name of a fault's kind. -/
def kind : Fault → String
  | malformed => "YAMLError"
  | encoding _ => "UnicodeDecodeError"
  | character number => if number < characterLimit then "ValueError" else "OverflowError"
  | digits _ => "ValueError"
  | noDigits _ => "ValueError"
  | tooManyGroups => "OverflowError"
  | other kind _ => kind

end Fault

end DistrictAtlas.Yaml
