import DistrictAtlas.Entries
import DistrictAtlas.Number.Shortest
import DistrictAtlas.Text.Wording

/-!
# Document values

The values that settings, manifests and exported documents are made of: scalars, lists, and mappings
from scalars to values in the order of their entries. A message shows a value in a notation of its
own, which also gives the text of a manifest's items. A document is whole if no text in it is torn.
-/

namespace DistrictAtlas

/-- A value without parts. -/
inductive Scalar where
  /-- No value. -/
  | null
  /-- A truth value. -/
  | bool (value : Bool)
  /-- A whole number of any size. -/
  | int (value : Int)
  /-- A double-precision number. -/
  | real (value : Binary64)
  /-- A text. -/
  | text (value : String)
  /-- A text in which half a character stands alone. -/
  | torn (value : Torn)
deriving DecidableEq, Repr

/-- A document. -/
inductive Value where
  /-- A value without parts. -/
  | scalar (value : Scalar)
  /-- A list of values. -/
  | list (items : List Value)
  /-- A mapping, its entries in order. -/
  | mapping (entries : List (Scalar × Value))
deriving Repr

instance : Inhabited Value := ⟨.scalar .null⟩

namespace Scalar

/-- The scalar of a text from outside. -/
def ofWording : Wording → Scalar
  | .whole s => text s
  | .torn s => torn s

/-- The text that a scalar is, if it is one. -/
def wording? : Scalar → Option Wording
  | text s => some (.whole s)
  | torn s => some (.torn s)
  | _ => none

/-- The scalar of a text is this text. -/
@[simp] theorem wording?_ofWording (wording : Wording) :
    (ofWording wording).wording? = some wording := by
  cases wording <;> rfl

/-- Whether the scalar is no torn text. -/
def isWhole : Scalar → Bool
  | torn _ => false
  | _ => true

/-- How a message shows a scalar. -/
def shown : Scalar → Except Digits.Refusal String
  | null => .ok "None"
  | bool true => .ok "True"
  | bool false => .ok "False"
  | int n => Digits.text n
  | real x => .ok (x.text Binary64.plainSpelling)
  | text s => .ok (Text.quote s)
  | torn s => .ok s.shown

/-- What a scalar is as a key: a number is the same whatever its kind, truth values count as one and
zero. -/
def keyForm : Scalar → Scalar
  | bool value => int (if value then 1 else 0)
  | real x => match x.whole? with
    | some n => int n
    | none => real x
  | other => other

/-- Two scalars are the same key if they are the same number, or the same scalar otherwise. -/
instance : BEq Scalar := ⟨fun a b => decide (a.keyForm = b.keyForm)⟩

instance : EquivBEq Scalar where
  rfl := by simp [BEq.beq]
  symm h := by simp only [BEq.beq, decide_eq_true_eq] at h ⊢; exact h.symm
  trans h h' := by simp only [BEq.beq, decide_eq_true_eq] at h h' ⊢; exact h.trans h'

/-- Where a number lies: below, among or above the finite ones, and which of these it is, by numerator
and denominator. -/
def place? : Scalar → Option (Int × Int × Nat)
  | bool value => some (0, if value then 1 else 0, 1)
  | int n => some (0, n, 1)
  | real (.infinite negative) => some (if negative then -1 else 1, 0, 1)
  | real (.finite negative significand power) =>
    let n := Binary64.signed negative significand
    some (0, if power < 0 then (n, Nat.pow 2 power.natAbs) else (n * Nat.pow 2 power.natAbs, 1))
  | _ => none

/-- Whether both scalars are numbers and the first lies below the second. -/
def isBelow (a b : Scalar) : Bool :=
  match a.place?, b.place? with
  | some (rank, n, d), some (rank', n', d') => rank < rank' || (rank = rank' && n * d' < n' * d)
  | _, _ => false

/-- The name of the kind of scalar, as messages about kinds use it. -/
def kind : Scalar → String
  | null => "NoneType"
  | bool _ => "bool"
  | int _ => "int"
  | real _ => "float"
  | text _ => "str"
  | torn _ => "str"

end Scalar

namespace Value

/-- The value of a text. -/
abbrev text (s : String) : Value := .scalar (.text s)

/-- The value of a text from outside. -/
abbrev ofWording (wording : Wording) : Value := .scalar (.ofWording wording)

/-- The value of a whole number. -/
abbrev int (n : Int) : Value := .scalar (.int n)

/-- The empty value. -/
abbrev null : Value := .scalar .null

/-- A mapping whose keys are texts. -/
def record (fields : List (String × Value)) : Value :=
  .mapping (fields.map fun field => (.text field.1, field.2))

mutual

/-- How a message shows a value. -/
def shown : Value → Except Digits.Refusal String
  | .scalar s => s.shown
  | .list items => do
    let texts ← shownItems items
    return "[" ++ ", ".intercalate texts ++ "]"
  | .mapping entries => do
    let texts ← shownEntries entries
    return "\x7b" ++ ", ".intercalate texts ++ "\x7d"

/-- How a message shows the items of a list. -/
def shownItems : List Value → Except Digits.Refusal (List String)
  | [] => return []
  | item :: rest => do
    let text ← item.shown
    return text :: (← shownItems rest)

/-- How a message shows the entries of a mapping. -/
def shownEntries : List (Scalar × Value) → Except Digits.Refusal (List String)
  | [] => return []
  | (key, value) :: rest => do
    let keyText ← key.shown
    let text ← value.shown
    return (keyText ++ ": " ++ text) :: (← shownEntries rest)

end

/-- The text that a value is, if it is one. -/
def wording? : Value → Option Wording
  | .scalar s => s.wording?
  | _ => none

/-- The text that stands for a value: a text is itself, any other value is shown. -/
def plainText (value : Value) : Except Digits.Refusal Wording :=
  match value.wording? with
  | some wording => .ok wording
  | none => value.shown.map .whole

mutual

/-- Whether no text in a document is torn, neither among the values nor among the keys. -/
def isWhole : Value → Bool
  | .scalar s => s.isWhole
  | .list items => areWhole items
  | .mapping entries => entriesAreWhole entries

/-- Whether no text in the items of a list is torn. -/
def areWhole : List Value → Bool
  | [] => true
  | item :: rest => item.isWhole && areWhole rest

/-- Whether no text in the entries of a mapping is torn. -/
def entriesAreWhole : List (Scalar × Value) → Bool
  | [] => true
  | (key, value) :: rest => key.isWhole && value.isWhole && entriesAreWhole rest

end

end Value

end DistrictAtlas
