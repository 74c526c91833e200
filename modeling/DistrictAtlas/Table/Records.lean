import DistrictAtlas.Table.Columns
import DistrictAtlas.Table.Rows

/-!
# Records

A territory table resolved into records: the first row is the header, every other row is a record of
the seven fields, and a field whose column is missing from the header or from the row is empty. A
table without rows and a table without the required columns cannot be resolved.
-/

namespace DistrictAtlas

/-- The fields of one row as text, without blanks around them. -/
structure Record where
  /-- What the territory is known by. -/
  id : String := ""
  /-- The districts that it claims, as one text. -/
  tokens : String := ""
  /-- The region it lies in. -/
  region : String := ""
  /-- The number of people who live there. -/
  population : String := ""
  /-- The number of businesses. -/
  businesses : String := ""
  /-- The income of a household. -/
  income : String := ""
  /-- Whether the territory is taken. -/
  status : String := ""
deriving DecidableEq, Repr

namespace Record

/-- The record that a function from fields to texts describes. -/
def ofFields (text : Field → String) : Record :=
  ⟨text .id, text .tokens, text .region, text .population, text .businesses, text .income,
    text .status⟩

/-- The text of a field. -/
def get (record : Record) : Field → String
  | .id => record.id
  | .tokens => record.tokens
  | .region => record.region
  | .population => record.population
  | .businesses => record.businesses
  | .income => record.income
  | .status => record.status

/-- A record made of the text of each field gives that text back. -/
@[simp] theorem get_ofFields (text : Field → String) (field : Field) :
    (ofFields text).get field = text field := by
  cases field <;> rfl

end Record

namespace Table

/-- Why a table has no records. -/
inductive Fault where
  /-- A cell is too long. -/
  | cellTooLong
  /-- There is no row. -/
  | noHeader
  /-- The header lacks required fields. -/
  | missing (fields : List Field)
deriving DecidableEq, Repr

namespace Fault

/-- The required fields that were not found. -/
def missingFields : Fault → List Field
  | cellTooLong => []
  | noHeader => Field.required
  | missing fields => fields

/-- The wording of a fault. -/
def message : Fault → String
  | cellTooLong => "Territory table is not readable CSV: " ++
      "field larger than field limit (131072)"
  | noHeader => "Territory table is empty; no header row found"
  | missing fields =>
    "Territory table is missing required fields: " ++ ", ".intercalate (fields.map Field.name)

end Fault

/-- A table taken apart. -/
structure Resolved where
  /-- The character between cells. -/
  delimiter : Char
  /-- The cells of the first row, without blanks around them. -/
  header : List String
  /-- The columns of the fields that the header has. -/
  columns : List (Field × Nat)
  /-- The other rows. -/
  records : List Record
deriving Repr

/-- The record of a row, given the columns of the fields. -/
def recordOf (columns : List (Field × Nat)) (row : List String) : Record :=
  Record.ofFields fun field =>
    match Entries.get? field columns with
    | none => ""
    | some index => Text.trim (row.getD index "")

/-- Takes apart the rows of a table. -/
def resolveRows (delimiter : Char) : List (List String) → Except Fault Resolved
  | [] => .error .noHeader
  | first :: rest =>
    let header := first.map Text.trim
    let columns := columns header
    match missingFields columns with
    | [] => .ok ⟨delimiter, header, columns, rest.map (recordOf columns)⟩
    | fields => .error (.missing fields)

/-- Takes a table apart. -/
def resolve (text : String) : Except Fault Resolved :=
  let delimiter := delimiter text
  match rowsWith? delimiter text with
  | none => .error .cellTooLong
  | some rows => resolveRows delimiter rows

end Table

end DistrictAtlas
