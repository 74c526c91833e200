import DistrictAtlas.Rules.Rulebook
import DistrictAtlas.Style.Theme
import DistrictAtlas.Style.Tree

/-!
# Painting a rulebook

The trees that paint the districts of a rulebook: by color, by whether they are taken, and by
opacity. Each tree asks for single codes first, then for continuations by a letter, then for all
continuations, and a table of the rulebook without entries is left out of it.
-/

namespace DistrictAtlas

namespace Tree

/-- The twenty-six letters. -/
def letters : String := "ABCDEFGHIJKLMNOPQRSTUVWXYZ"

/-- The condition that a code is a stem or goes on from it with a letter. -/
def letterCondition (stem : String) : Tree :=
  .all [.startsWith stem, .any [.hasLength stem.length, .nextIn stem.length letters]]

/-- The condition that a code begins with a stem. -/
def anyCondition (stem : String) : Tree :=
  .startsWith stem

end Tree

namespace Rulebook

/-- A tree with one branch for each rule, or the last tree alone when there is no rule. -/
def ruleTier (condition : String → Tree) (value : String → Tree) (rules : List Rule)
    (otherwise : Tree) : Tree :=
  match rules with
  | [] => otherwise
  | rules =>
    .choose (rules.map fun rule => (condition rule.stem, value rule.territory)) otherwise

/-- A tree with one entry for each code, or the last tree alone when there is no code. -/
def exactTier (value : String → Tree) (codes : List (String × String)) (otherwise : Tree) : Tree :=
  match codes with
  | [] => otherwise
  | codes => .lookup (codes.map fun entry => (entry.1, value entry.2)) otherwise

/-- The tree that gives a code the value of its territory, and another value to codes without one. -/
def tiers (book : Rulebook) (value : String → Tree) (unmatched : Tree) : Tree :=
  exactTier value book.exact
    (ruleTier Tree.letterCondition value book.letter
      (ruleTier Tree.anyCondition value book.any unmatched))

/-- The color of a territory. -/
def colorOf (book : Rulebook) (theme : Theme) (id : String) : String :=
  match book.territory? id with
  | none => theme.fallbackColor
  | some territory => if territory.color.isEmpty then theme.fallbackColor else territory.color

/-- The tree of colors. -/
def colorTree (book : Rulebook) (theme : Theme) : Tree :=
  book.tiers (fun id => .constant (.text (book.colorOf theme id)))
    (.constant (.text theme.unmatchedColor))

/-- The tree that tells whether a district is taken. -/
def takenTree (book : Rulebook) : Tree :=
  book.tiers (fun id => .constant (.bool ((book.territory? id).any (·.isTaken))))
    (.constant (.bool false))

/-- The tree of opacities. -/
def opacityTree (book : Rulebook) (theme : Theme) : Tree :=
  .choose [(book.takenTree, .constant (.real theme.dimmedOpacity))]
    (.constant (.real theme.normalOpacity))

end Rulebook

end DistrictAtlas
