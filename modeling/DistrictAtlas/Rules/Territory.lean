import DistrictAtlas.Rules.Status
import DistrictAtlas.Rules.Token

/-!
# Territories

A sales territory with the facts that a table states about it, the tokens by which it claims
districts, and the color it is painted in.
-/

namespace DistrictAtlas

/-- A sales territory. -/
structure Territory where
  /-- What the territory is known by. -/
  id : String
  /-- The region it lies in. -/
  region : String
  /-- The number of people who live there. -/
  population : Int
  /-- The number of businesses. -/
  businesses : Int
  /-- The income of a household, as stated. -/
  income : String
  /-- Whether it is taken. -/
  status : Status
  /-- The status as stated. -/
  statusLabel : String
  /-- Its tokens, in the order of their declaration. -/
  tokens : List Token
  /-- The color it is painted in. -/
  color : String
deriving DecidableEq, Repr

namespace Territory

/-- Whether somebody has taken the territory. -/
def isTaken (territory : Territory) : Bool :=
  territory.status = .taken

/-- The heading under which the territory is described. -/
def title (territory : Territory) : String :=
  "Territory " ++ territory.id

/-- The tokens as they are shown. -/
def tokenTexts (territory : Territory) : List String :=
  territory.tokens.map (·.text)

end Territory

end DistrictAtlas
