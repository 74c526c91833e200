import DistrictAtlas.Table.Delimiter

/-!
# The rows of a table

Reading delimited text. A cell that begins with a double quote goes on to the next single double
quote, and two double quotes inside it are one; what follows the closing quote up to the delimiter
belongs to the cell as it stands. Quotes elsewhere are ordinary characters, and an open quote at the
end of the text is closed there, so every text is some table. A row without a cell that has more than
blanks in it is dropped. The one thing refused is a cell of more than 131072 characters.
-/

namespace DistrictAtlas.Table

/-- Where the reader stands. -/
inductive Stage where
  /-- Before the first cell of a row. -/
  | rowStart
  /-- Before another cell. -/
  | cellStart
  /-- In a cell without quotes, or behind its closing quote. -/
  | bare
  /-- Between quotes. -/
  | quoted
  /-- Behind a quote that may be the closing one. -/
  | quoteSeen
deriving DecidableEq, Repr

/-- What has been read so far. -/
structure Reading where
  /-- Complete rows, last first. -/
  rows : List (List String) := []
  /-- Complete cells of the row, last first. -/
  cells : List String := []
  /-- Characters of the cell, last first. -/
  cell : List Char := []
  /-- Where the reader stands. -/
  stage : Stage := .rowStart

namespace Reading

/-- Adds a character to the cell. -/
def add (reading : Reading) (c : Char) (stage : Stage) : Reading :=
  { reading with cell := c :: reading.cell, stage }

/-- Completes the cell. -/
def endCell (reading : Reading) : Reading :=
  { reading with
    cells := String.ofList reading.cell.reverse :: reading.cells, cell := [], stage := .cellStart }

/-- Completes the cell and the row. -/
def endRow (reading : Reading) : Reading :=
  { rows := (String.ofList reading.cell.reverse :: reading.cells).reverse :: reading.rows }

/-- Takes one more character. A row without any cell is no row, so a line feed behind a carriage
return changes nothing. -/
def step (delimiter : Char) (reading : Reading) (c : Char) : Reading :=
  match reading.stage with
  | .rowStart =>
    if isLineEnd c then reading
    else if c = '"' then { reading with stage := .quoted }
    else if c = delimiter then reading.endCell
    else reading.add c .bare
  | .cellStart =>
    if isLineEnd c then reading.endRow
    else if c = '"' then { reading with stage := .quoted }
    else if c = delimiter then reading.endCell
    else reading.add c .bare
  | .bare =>
    if isLineEnd c then reading.endRow
    else if c = delimiter then reading.endCell
    else reading.add c .bare
  | .quoted =>
    if c = '"' then { reading with stage := .quoteSeen } else reading.add c .quoted
  | .quoteSeen =>
    if c = '"' then reading.add c .quoted
    else if c = delimiter then reading.endCell
    else if isLineEnd c then reading.endRow
    else reading.add c .bare

/-- All rows, the last one completed. -/
def finish (reading : Reading) : List (List String) :=
  (match reading.stage with
    | .rowStart => reading.rows
    | _ => reading.endRow.rows).reverse

end Reading

/-- The rows of the characters, blank ones included. -/
def allRows (delimiter : Char) (cs : List Char) : List (List String) :=
  (cs.foldl (Reading.step delimiter) {}).finish

/-- Whether every cell of a row is blank. -/
def isBlankRow (row : List String) : Bool :=
  row.all Text.isBlankText

/-- The greatest number of characters of a cell. -/
def cellLimit : Nat := 131072

/-- The rows of a table with a given delimiter, or nothing when some cell is too long. One byte order
mark in front is no part of the table. -/
def rowsWith? (delimiter : Char) (text : String) : Option (List (List String)) :=
  let rows := allRows delimiter (withoutMark text.toList)
  if rows.any fun row => row.any fun cell => cellLimit < cell.length then none
  else some (rows.filter fun row => !isBlankRow row)

/-- The rows of a table whose delimiter is found from what is left behind the byte order mark. -/
def rows? (text : String) : Option (List (List String)) :=
  rowsWith? (delimiterOf (withoutMark text.toList)) text

end DistrictAtlas.Table
