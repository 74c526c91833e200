import DistrictAtlas.Rules.Lookup
import DistrictAtlas.Style.Theme
import DistrictAtlas.Table.Writing
import DistrictAtlas.Text.CodeOrder
import DistrictAtlas.Value

/-!
# Classifications

A list of codes with what the map makes of them: territory, color, whether taken, opacity. Codes are
trimmed and in upper case, and blank ones are left out. As a table the rows are sorted by code, equal
codes staying in order.
-/

namespace DistrictAtlas

/-- What the map makes of a code. -/
structure Classified where
  /-- The code, trimmed and in upper case. -/
  code : String
  /-- The territory that it belongs to. -/
  territory : Option String
  /-- Its color. -/
  color : String
  /-- Whether its territory is taken. -/
  taken : Bool
  /-- Its opacity. -/
  opacity : Binary64
deriving DecidableEq, Repr

namespace Classified

/-- The headings of the table. -/
def headings : List String := ["code", "territory_id", "color", "taken", "opacity"]

/-- The cells of a row. -/
def cells (row : Classified) : List String :=
  [row.code, row.territory.getD "", row.color, if row.taken then "true" else "false",
   row.opacity.text Binary64.plainSpelling]

/-- A row as a document. -/
def toValue (row : Classified) : Value :=
  .record [("code", .text row.code), ("territory_id", row.territory.elim .null .text),
    ("color", .text row.color), ("taken", .scalar (.bool row.taken)),
    ("opacity", .scalar (.real row.opacity))]

/-- The rows in the order of their codes. -/
def sorted (rows : List Classified) : List Classified :=
  rows.mergeSort fun a b => Text.le a.code b.code

/-- The rows as a table. -/
def table (rows : List Classified) : String :=
  Table.write (headings :: (sorted rows).map cells)

end Classified

namespace Rulebook

/-- What the map makes of one code that is trimmed and in upper case. -/
def classifyOne (book : Rulebook) (theme : Theme) (code : String) : Classified :=
  let id := book.owner? code
  let territory := id.bind book.territory?
  let taken := territory.any (·.isTaken)
  { code
    territory := id
    color := territory.elim theme.unmatchedColor (·.color)
    taken
    opacity := if taken then theme.dimmedOpacity else theme.normalOpacity }

/-- What the map makes of codes, blank ones left out. -/
def classify (book : Rulebook) (theme : Theme) (codes : List String) : List Classified :=
  let tidied := codes.map fun code => Text.upper (Text.trim code)
  (tidied.filter fun code => !code.isEmpty).map (book.classifyOne theme)

end Rulebook

end DistrictAtlas
