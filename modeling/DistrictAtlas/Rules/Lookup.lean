import DistrictAtlas.Rules.Rulebook
import DistrictAtlas.Text.Casing

/-!
# Looking up codes

Which territory a district code belongs to. Single codes come first, then claims with continuations
by a letter, then claims with all continuations; in the last two the first declared claim that fits
wins, however short its code. The code is looked up in upper case.
-/

namespace DistrictAtlas

/-- Whether the character is one of the twenty-six letters. -/
def isLetter (c : Char) : Bool := 'A' ≤ c && c ≤ 'Z'

namespace Rule

/-- Whether a code is a stem, or the stem followed by a letter and anything behind it. -/
def fitsLetter (stem code : List Char) : Bool :=
  stem.isPrefixOf code &&
    match code.drop stem.length with
    | [] => true
    | c :: _ => isLetter c

/-- Whether a code begins with a stem. -/
def fitsAny (stem code : List Char) : Bool :=
  stem.isPrefixOf code

/-- The territory of the first rule whose stem fits. -/
def firstFit (fits : List Char → Bool) (rules : List Rule) : Option String :=
  (rules.find? fun rule => fits rule.stem.toList).map (·.territory)

end Rule

namespace Rulebook

/-- The id of the territory that a code in upper case belongs to. -/
def ownerOfUpper? (book : Rulebook) (code : String) : Option String :=
  match Entries.get? code book.exact with
  | some id => some id
  | none =>
    match Rule.firstFit (Rule.fitsLetter · code.toList) book.letter with
    | some id => some id
    | none => Rule.firstFit (Rule.fitsAny · code.toList) book.any

/-- The id of the territory that a code belongs to. -/
def owner? (book : Rulebook) (code : String) : Option String :=
  book.ownerOfUpper? (Text.upper code)

/-- The territory that a code belongs to, when it is declared. -/
def ownerTerritory? (book : Rulebook) (code : String) : Option Territory :=
  (book.owner? code).bind book.territory?

/-- Whether a code belongs to a territory that is taken. -/
def isTaken (book : Rulebook) (code : String) : Bool :=
  (book.ownerTerritory? code).any (·.isTaken)

end Rulebook

end DistrictAtlas
