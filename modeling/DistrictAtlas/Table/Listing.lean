import DistrictAtlas.Table.Writing
import DistrictAtlas.Value

/-!
# Listings

Documents as a table: one row for each document, one column for each heading. An entry that a document
lacks, and the empty value, leave the cell empty; other values stand there as their text, with the
replacement character for every half of a character.
-/

namespace DistrictAtlas.Table

/-- The cell of a value. -/
def cellOf : Value → Except Digits.Refusal String
  | .scalar .null => .ok ""
  | value => value.plainText.map Wording.mended

/-- The entry of a document under a heading. -/
def entryOf (heading : String) : Value → Value
  | .mapping entries => (Entries.get? (.text heading) entries).getD .null
  | _ => .null

/-- The row of a document. -/
def rowOf (headings : List String) (document : Value) : Except Digits.Refusal (List String) :=
  headings.mapM fun heading => cellOf (entryOf heading document)

/-- Documents as a table. -/
def listing (headings : List String) (documents : List Value) : Except Digits.Refusal String := do
  let rows ← documents.mapM (rowOf headings)
  return write (headings :: rows)

end DistrictAtlas.Table
