import DistrictAtlas.Text.Blank

/-!
# The delimiter of a table

Which of three characters separates the cells of a table is decided from one logical line: the first
one that is not blank, where a line end between double quotes does not end the line. The candidate
that stands most often outside quotes wins, and the comma wins every tie.
-/

namespace DistrictAtlas.Table

/-- The byte order mark. -/
def byteOrderMark : Char := Char.ofNat 0xFEFF

/-- The characters without one byte order mark in front. -/
def withoutMark : List Char → List Char
  | [] => []
  | c :: rest => if c = byteOrderMark then rest else c :: rest

/-- Whether the character ends a line of a table. -/
def isLineEnd (c : Char) : Bool := c = '\n' || c = '\r'

/-- What has been seen in looking for the first logical line. -/
structure LineSearch where
  /-- Whether a quote is open. -/
  quoted : Bool := false
  /-- Characters of the line, last first. -/
  line : List Char := []
  /-- Whether the line has ended. -/
  ended : Bool := false

/-- Takes one more character. A blank line is thrown away together with its end. -/
def LineSearch.step (search : LineSearch) (c : Char) : LineSearch :=
  if search.ended then search
  else if c = '"' then { search with quoted := !search.quoted, line := c :: search.line }
  else if isLineEnd c && !search.quoted then
    if search.line.all Text.isBlank then { search with line := [] }
    else { search with ended := true }
  else { search with line := c :: search.line }

/-- The first logical line that is not blank; without one, what follows the last line end. -/
def headLine (cs : List Char) : List Char :=
  (cs.foldl LineSearch.step {}).line.reverse

/-- How often the candidates occur outside quotes. -/
structure Tally where
  /-- Whether a quote is open. -/
  quoted : Bool := false
  /-- Commas outside quotes. -/
  commas : Nat := 0
  /-- Semicolons outside quotes. -/
  semicolons : Nat := 0
  /-- Tabulators outside quotes. -/
  tabs : Nat := 0

/-- Takes one more character. -/
def Tally.step (tally : Tally) (c : Char) : Tally :=
  if c = '"' then { tally with quoted := !tally.quoted }
  else if tally.quoted then tally
  else if c = ',' then { tally with commas := tally.commas + 1 }
  else if c = ';' then { tally with semicolons := tally.semicolons + 1 }
  else if c = '\t' then { tally with tabs := tally.tabs + 1 }
  else tally

/-- The candidate that occurs most often. One takes the place of another only by occurring strictly
more often, and the comma comes first. -/
def Tally.winner (tally : Tally) : Char :=
  if tally.commas < tally.semicolons then
    if tally.semicolons < tally.tabs then '\t' else ';'
  else if tally.commas < tally.tabs then '\t' else ','

/-- The delimiter of a table. -/
def delimiterOf (cs : List Char) : Char :=
  ((headLine (withoutMark cs)).foldl Tally.step {}).winner

/-- The delimiter of a table. -/
def delimiter (text : String) : Char := delimiterOf text.toList

end DistrictAtlas.Table
