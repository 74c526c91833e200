import DistrictAtlas.Rules.Lookup
import DistrictAtlas.Value

/-!
# Descriptions

What an information panel says about a code: the facts about its territory, one on a line, or only the
code when it belongs to none. Of many tokens the first are shown and the others counted. Numbers have
their thousands separated; one that is too long to be written leaves no description.
-/

namespace DistrictAtlas

/-- What is said about a code. -/
structure Description where
  /-- The code in upper case. -/
  code : String
  /-- The territory that it belongs to. -/
  territory : Option String
  /-- The lines of the panel. -/
  lines : List String
deriving DecidableEq, Repr

namespace Description

/-- Whether the code belongs to a territory. -/
def isMatched (description : Description) : Bool :=
  description.territory.isSome

/-- The lines as one text. -/
def text (description : Description) : String :=
  "\n".intercalate description.lines

/-- A description as a document. -/
def toValue (description : Description) : Value :=
  .record [("code", .text description.code),
    ("territory_id", description.territory.elim .null .text),
    ("lines", .list (description.lines.map .text))]

/-- The first items of a list; a negative number leaves out that many at the end. -/
def shown (tokens : List String) (number : Int) : List String :=
  tokens.take (if number < 0 then (tokens.length : Int) + number else number).toNat

/-- The line about the tokens of a territory. -/
def tokenLine (tokens : List String) (number : Int) : String :=
  let first := shown tokens number
  let others := tokens.length - first.length
  let line := "Postcodes: " ++ ", ".intercalate first
  if 0 < others then line ++ " +" ++ String.ofList (Digits.ofNat others) ++ " more" else line

/-- The lines about a territory. -/
def territoryLines (territory : Territory) (number : Int) :
    Except Digits.Refusal (List String) := do
  let population ← Digits.groupedText territory.population
  let businesses ← Digits.groupedText territory.businesses
  return [territory.title,
    "Region: " ++ territory.region,
    tokenLine territory.tokenTexts number,
    "Population: " ++ population,
    "Number of businesses: " ++ businesses,
    "Income: " ++ territory.income,
    "Status: " ++ Text.lower territory.statusLabel]

end Description

namespace Rulebook

/-- What is said about a code, with a number of tokens to show. -/
def describe (book : Rulebook) (code : String) (number : Int) :
    Except Digits.Refusal Description :=
  let code := Text.upper code
  match book.ownerTerritory? code with
  | none => .ok ⟨code, none, [code]⟩
  | some territory => do
    return ⟨code, some territory.id, ← Description.territoryLines territory number⟩

end Rulebook

end DistrictAtlas
