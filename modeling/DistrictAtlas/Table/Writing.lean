import DistrictAtlas.Table.Delimiter

/-!
# Writing tables

Rows as comma-separated text. A cell is put between quotes only when it holds a comma, a quote or a
line end, and a quote inside is written twice; every row ends with a carriage return and a line feed.
A row whose only cell is empty is written as a pair of quotes, lest it look like no row.
-/

namespace DistrictAtlas.Table

/-- Whether a cell with this character has to be quoted. -/
def needsQuotes (c : Char) : Bool :=
  c = ',' || c = '"' || isLineEnd c

/-- A character between quotes. -/
def doubleQuote (c : Char) : List Char :=
  if c = '"' then ['"', '"'] else [c]

/-- A cell as it is written. -/
def writeCell (cell : String) : List Char :=
  let cs := cell.toList
  if cs.any needsQuotes then '"' :: (cs.flatMap doubleQuote ++ ['"']) else cs

/-- A row as it is written. -/
def writeRow : List String → List Char
  | [""] => ['"', '"', '\r', '\n']
  | cells => List.intercalate [','] (cells.map writeCell) ++ ['\r', '\n']

/-- A table as it is written. -/
def write (rows : List (List String)) : String :=
  String.ofList (rows.flatMap writeRow)

end DistrictAtlas.Table
