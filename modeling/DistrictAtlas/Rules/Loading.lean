import DistrictAtlas.Failure
import DistrictAtlas.Rules.Draft

/-!
# Loading a rulebook

A rulebook from the text of a table, with colors dealt out from a list. A table that cannot be resolved
gives no rulebook, and neither does an empty list of colors; the data rows of a table never stand in
the way.
-/

namespace DistrictAtlas

/-- A rulebook, and the number of rows that it was made from. -/
structure LoadedBook where
  /-- The rulebook. -/
  book : Rulebook
  /-- The number of rows behind the header. -/
  rows : Nat

namespace Rulebook

/-- The rulebook of records, colors dealt out from a list. -/
def ofColors (colors : List String) (records : List Record) : Except Failure LoadedBook :=
  match Palette.ofList? colors with
  | none => .error .emptyPalette
  | some palette => .ok ⟨ofRecords palette records, records.length⟩

/-- The rulebook of a table, colors dealt out from a list. -/
def load (colors : List String) (text : String) : Except Failure LoadedBook :=
  match Table.resolve text with
  | .error fault => .error (.table fault)
  | .ok resolved => ofColors colors resolved.records

/-- Records are loaded with any palette, since a palette has a color. -/
theorem ofColors_palette (palette : Palette) (records : List Record) :
    ofColors palette.colors records = .ok ⟨ofRecords palette records, records.length⟩ := by
  have h : Palette.ofList? palette.colors = some palette := by
    unfold Palette.ofList?
    split
    · exact absurd ‹_› palette.nonempty
    · rfl
  simp [ofColors, h]

end Rulebook

end DistrictAtlas
