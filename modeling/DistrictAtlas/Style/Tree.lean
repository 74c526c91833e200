import DistrictAtlas.Text.Casing
import DistrictAtlas.Value

/-!
# Style trees

How a value of the map depends on the code of a district: constants, a table of codes, ordered
conditions, and tests of the code's beginning, length and characters. Evaluation looks only at what
it needs: the first entry of a table with the code, the first condition that is true. A condition
counts when it is the truth value true, and no other value does.
-/

namespace DistrictAtlas

/-- A value that depends on a code. -/
inductive Tree where
  /-- The code itself. -/
  | code
  /-- The same value for every code. -/
  | constant (value : Scalar)
  /-- The tree of the first entry with the code. -/
  | lookup (table : List (String × Tree)) (otherwise : Tree)
  /-- The tree behind the first condition that is true. -/
  | choose (branches : List (Tree × Tree)) (otherwise : Tree)
  /-- Whether the code begins with a text. -/
  | startsWith (stem : String)
  /-- Whether the code has that many characters. -/
  | hasLength (length : Int)
  /-- Whether the character at a position is one of the letters; a negative position counts from the
  end, but the last character cannot be reached so. -/
  | nextIn (position : Int) (letters : String)
  /-- Whether all conditions are true. -/
  | all (conditions : List Tree)
  /-- Whether some condition is true. -/
  | any (conditions : List Tree)
  /-- Something that is no tree. -/
  | foreign
deriving Repr

instance : Inhabited Tree := ⟨.code⟩

namespace Tree

/-- Why a tree has no value. -/
inductive Fault where
  /-- A part that is no tree was reached. -/
  | unsupported
deriving DecidableEq, Repr

/-- The wording of a fault. -/
def Fault.message : Fault → String
  | .unsupported => "Unsupported expression node: object"

/-- The truth value true. -/
abbrev yes : Scalar := .bool true

/-- The character between a position and the next one, if there is one. -/
def charAt? (cs : List Char) (position : Int) : Option Char :=
  if 0 ≤ position then cs[position.toNat]?
  else if position = -1 then none
  else
    let index := (cs.length : Int) + position
    if 0 ≤ index then cs[index.toNat]? else none

mutual

/-- The value of a tree for a code in upper case. -/
def evalUpper (code : String) : Tree → Except Fault Scalar
  | .code => .ok (.text code)
  | .constant value => .ok value
  | .lookup table otherwise =>
    match evalTable code table with
    | some result => result
    | none => evalUpper code otherwise
  | .choose branches otherwise =>
    match evalBranches code branches with
    | some result => result
    | none => evalUpper code otherwise
  | .startsWith stem => .ok (.bool (stem.toList.isPrefixOf code.toList))
  | .hasLength length => .ok (.bool ((code.length : Int) = length))
  | .nextIn position letters =>
    .ok (.bool ((charAt? code.toList position).any letters.toList.contains))
  | .all conditions => evalAll code conditions
  | .any conditions => evalAny code conditions
  | .foreign => .error .unsupported

/-- The value of the first entry with the code, if there is one. -/
def evalTable (code : String) : List (String × Tree) → Option (Except Fault Scalar)
  | [] => none
  | (label, tree) :: rest =>
    if label = code then some (evalUpper code tree) else evalTable code rest

/-- The value behind the first true condition, if there is one. -/
def evalBranches (code : String) : List (Tree × Tree) → Option (Except Fault Scalar)
  | [] => none
  | (condition, tree) :: rest =>
    match evalUpper code condition with
    | .error fault => some (.error fault)
    | .ok value => if value = yes then some (evalUpper code tree) else evalBranches code rest

/-- Whether all conditions are true; those behind one that is not are not looked at. -/
def evalAll (code : String) : List Tree → Except Fault Scalar
  | [] => .ok yes
  | condition :: rest =>
    match evalUpper code condition with
    | .error fault => .error fault
    | .ok value => if value = yes then evalAll code rest else .ok (.bool false)

/-- Whether some condition is true; those behind one that is are not looked at. -/
def evalAny (code : String) : List Tree → Except Fault Scalar
  | [] => .ok (.bool false)
  | condition :: rest =>
    match evalUpper code condition with
    | .error fault => .error fault
    | .ok value => if value = yes then .ok yes else evalAny code rest

end

/-- The value of a tree for a code, which is taken in upper case. -/
def eval (tree : Tree) (code : String) : Except Fault Scalar :=
  evalUpper (Text.upper code) tree

/-- A tree without a choice has its value for every code. -/
theorem eval_constant (value : Scalar) (code : String) : eval (.constant value) code = .ok value :=
  rfl

end Tree

end DistrictAtlas
