/-!
# Palettes

The colors that territories are painted in, dealt out in turn: the first territory gets the first
color, and behind the last color comes the first again. A palette has a color.
-/

namespace DistrictAtlas

/-- A row of colors that is not empty. -/
structure Palette where
  /-- The colors in order. -/
  colors : List String
  /-- There is a color. -/
  nonempty : colors ≠ []

namespace Palette

/-- The palette of these colors, if there are any. -/
def ofList? (colors : List String) : Option Palette :=
  if h : colors = [] then none else some ⟨colors, h⟩

/-- The color that is dealt out after `turn` others. -/
def color (palette : Palette) (turn : Nat) : String :=
  palette.colors.get
    ⟨turn % palette.colors.length, Nat.mod_lt _ (List.length_pos_iff.2 palette.nonempty)⟩

/-- The wording of the complaint about a palette without colors. -/
def emptyMessage : String := "palette must contain at least one color"

end Palette

end DistrictAtlas
