import DistrictAtlas.Style.Theme
import DistrictAtlas.Style.Tree

/-!
# Renderer expressions

Style trees in the notation of the map renderer: nested lists that begin with the name of an
operator, the code being a property of the feature in upper case. A table without entries and a
choice without branches are written as what they fall back to, for the renderer has no such forms.
-/

namespace DistrictAtlas

namespace Renderer

/-- An operator with its arguments. -/
def call (operator : String) (arguments : List Value) : Value :=
  .list (.text operator :: arguments)

/-- The code of a feature. -/
def codeOf (codeProperty : Wording) : Value :=
  call "upcase" [call "get" [.ofWording codeProperty]]

/-- A part of the code, from one position up to another. -/
def slice (codeProperty : Wording) (start stop : Int) : Value :=
  call "slice" [codeOf codeProperty, .int start, .int stop]

mutual

/-- A tree in the notation of the renderer. -/
def express (codeProperty : Wording) : Tree → Except Tree.Fault Value
  | .code => .ok (codeOf codeProperty)
  | .constant value => .ok (.scalar value)
  | .lookup [] otherwise => express codeProperty otherwise
  | .lookup table otherwise => do
    let arguments ← expressTable codeProperty table
    let last ← express codeProperty otherwise
    return call "match" (codeOf codeProperty :: arguments ++ [last])
  | .choose [] otherwise => express codeProperty otherwise
  | .choose branches otherwise => do
    let arguments ← expressBranches codeProperty branches
    let last ← express codeProperty otherwise
    return call "case" (arguments ++ [last])
  | .startsWith stem => .ok (call "==" [slice codeProperty 0 stem.length, .text stem])
  | .hasLength length => .ok (call "==" [call "length" [codeOf codeProperty], .int length])
  | .nextIn position letters =>
    .ok (call "in" [slice codeProperty position (position + 1),
      call "literal" [.list (letters.toList.map fun c => .text (String.singleton c))]])
  | .all conditions => do return call "all" (← expressList codeProperty conditions)
  | .any conditions => do return call "any" (← expressList codeProperty conditions)
  | .foreign => .error .unsupported

/-- The labels and values of a table, one after the other. -/
def expressTable (codeProperty : Wording) : List (String × Tree) → Except Tree.Fault (List Value)
  | [] => .ok []
  | (label, tree) :: rest => do
    let value ← express codeProperty tree
    return .text label :: value :: (← expressTable codeProperty rest)

/-- The conditions and values of a choice, one after the other. -/
def expressBranches (codeProperty : Wording) : List (Tree × Tree) → Except Tree.Fault (List Value)
  | [] => .ok []
  | (condition, tree) :: rest => do
    let condition ← express codeProperty condition
    let value ← express codeProperty tree
    return condition :: value :: (← expressBranches codeProperty rest)

/-- The conditions of a conjunction or disjunction. -/
def expressList (codeProperty : Wording) : List Tree → Except Tree.Fault (List Value)
  | [] => .ok []
  | condition :: rest => do
    let value ← express codeProperty condition
    return value :: (← expressList codeProperty rest)

end

/-- The fill of the map's districts, uniform where no tree is given. -/
def paint (color opacity : Option Tree) (theme : Theme) : Except Tree.Fault Value := do
  let color ← match color with
    | none => pure (.text theme.baseColor)
    | some tree => express theme.codeProperty tree
  let opacity ← match opacity with
    | none => pure (.scalar (.real theme.normalOpacity))
    | some tree => express theme.codeProperty tree
  return .record [("fill-color", color), ("fill-opacity", opacity)]

end Renderer

end DistrictAtlas
