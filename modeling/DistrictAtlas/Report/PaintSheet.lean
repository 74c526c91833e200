import DistrictAtlas.Json.Printer
import DistrictAtlas.Style.Painting
import DistrictAtlas.Style.Renderer

/-!
# Paint sheets

The fill of a rulebook's map as a document: for the renderer alone, or together with the property
that holds the codes and the number of territories.
-/

namespace DistrictAtlas.Rulebook

/-- The fill of the map's districts. -/
def paint (book : Rulebook) (theme : Theme) : Except Tree.Fault Value :=
  Renderer.paint (some (book.colorTree theme)) (some (book.opacityTree theme)) theme

/-- The fill of the map's districts with the facts needed to use it. -/
def paintSheet (book : Rulebook) (theme : Theme) : Except Tree.Fault Value := do
  let fill ← book.paint theme
  return .record [("code_property", .ofWording theme.codeProperty),
    ("territory_count", .int book.territories.length), ("paint", fill)]

end DistrictAtlas.Rulebook
