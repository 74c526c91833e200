import DistrictAtlas.Number.Binary64
import DistrictAtlas.Text.Wording

/-!
# Themes

The look of the map: which property of a feature holds its code, the colors and opacities in use, the
postcode areas to draw when no list of them is at hand, and how many tokens a description shows.
-/

namespace DistrictAtlas

/-- The look of the map. -/
structure Theme where
  /-- The property of a feature that holds its district code. -/
  codeProperty : Wording := .whole "name"
  /-- The colors of the territories, dealt out in turn. -/
  palette : List String :=
    ["#4e79a7", "#f28e2b", "#e15759", "#76b7b2", "#59a14f", "#edc948", "#b07aa1", "#ff9da7",
     "#9c755f", "#bab0ab"]
  /-- The color of districts that belong to no territory. -/
  unmatchedColor : String := "#dddddd"
  /-- The color of districts whose territory has no color. -/
  fallbackColor : String := "#cccccc"
  /-- The color of all districts while no territory is known. -/
  baseColor : String := "#cccccc"
  /-- The opacity of districts. -/
  normalOpacity : Binary64 := Binary64.ofDecimal false 68 2 (-2)
  /-- The opacity of districts whose territory is taken. -/
  dimmedOpacity : Binary64 := Binary64.ofDecimal false 28 2 (-2)
  /-- The postcode areas to draw when no list of them is at hand. -/
  fallbackAreas : List Wording := ["E", "EC", "N", "NW", "SE", "SW", "W", "WC"].map .whole
  /-- The number of tokens that a description shows. -/
  shownTokens : Int := 10
deriving DecidableEq, Repr

namespace Theme

/-- The look of the map when nothing else is asked for. -/
def default : Theme := {}

end Theme

end DistrictAtlas
