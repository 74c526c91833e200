import DistrictAtlas.Atlas
import DistrictAtlas.Report.Inspection

/-!
# Sessions

An atlas in use: at each turn a table is loaded or a question is asked, in any order. A turn leaves
an atlas for the next one, gives an answer, and says what is to be logged. A question is answered by
the rulebook that is there when it is asked.
-/

namespace DistrictAtlas

/-- A question about districts and territories. -/
inductive Question where
  /-- Which territory a code belongs to. -/
  | owner (code : String)
  /-- Whether the territory of a code is taken. -/
  | taken (code : String)
  /-- What is known about a territory. -/
  | facts (id : String)
  /-- What there is to say about a code. -/
  | description (code : String)
  /-- The tree of colors. -/
  | colors
  /-- The tree of opacities. -/
  | opacities
deriving DecidableEq, Repr

/-- What a turn gives in answer. -/
inductive Answer where
  /-- The id of a territory, if there is one. -/
  | owner (id : Option String)
  /-- Whether a territory is taken. -/
  | taken (answer : Bool)
  /-- A territory as a document, if it is known. -/
  | facts (document : Option Value)
  /-- A description, if its numbers can be written. -/
  | description (answer : Except Digits.Refusal Description)
  /-- A tree. -/
  | tree (answer : Tree)
  /-- The rulebook that was loaded. -/
  | loaded (book : Rulebook)
  /-- Why no rulebook was loaded. -/
  | failed (failure : Failure)

namespace Atlas

/-- The answer to a question. -/
def answer (atlas : Atlas) : Question → Answer
  | .owner code => .owner (atlas.book.owner? code)
  | .taken code => .taken (atlas.book.isTaken code)
  | .facts id => .facts ((atlas.book.territory? id).map Territory.toValue)
  | .description code => .description (atlas.describe code)
  | .colors => .tree atlas.colorTree
  | .opacities => .tree atlas.opacityTree

end Atlas

end DistrictAtlas
