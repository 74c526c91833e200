import DistrictAtlas.Style.Renderer

/-!
# What renderer expressions mean

A reference semantics of the operators that rendered trees use, over one feature of the map. A value
that is no list stands for itself; a list is an operator with its arguments. An expression outside
these forms has no meaning. Nothing here looks at the trees: the meaning is that of the written
lists alone.
-/

namespace DistrictAtlas.Renderer

/-- A feature of the map. -/
structure Feature where
  /-- Its properties by their names. -/
  properties : List (Wording × Value)

/-- The value of a property; a property that the feature lacks is empty. -/
def Feature.property (feature : Feature) (name : Wording) : Value :=
  (Entries.get? name feature.properties).getD .null

/-- Where a position lies in a row of characters. A negative one counts from the end, and every one
is kept between the two ends. -/
def place (size : Nat) (position : Int) : Nat :=
  if position < 0 then (size + position).toNat else min position.toNat size

/-- The characters from one position up to another, none when the second does not lie behind the
first. -/
def sliceChars (cs : List Char) (start stop : Int) : List Char :=
  (cs.take (place cs.length stop)).drop (place cs.length start)

/-- The operators that occur in rendered trees. -/
inductive Operator where
  /-- A property of the feature. -/
  | property
  /-- A text in upper case. -/
  | upcase
  /-- A part of a text. -/
  | slice
  /-- The number of characters of a text. -/
  | length
  /-- Whether two constants are equal. -/
  | equal
  /-- Whether a constant is among the items of a list. -/
  | member
  /-- A value as it stands, not as an expression. -/
  | literal
  /-- Whether all conditions are true. -/
  | all
  /-- Whether some condition is true. -/
  | any
  /-- The value behind the first true condition. -/
  | choose
  /-- The value behind the first label that equals the input. -/
  | lookup
deriving DecidableEq, Repr

namespace Operator

/-- The name that begins the list of an operator. -/
def name : Operator → String
  | property => "get"
  | upcase => "upcase"
  | slice => "slice"
  | length => "length"
  | equal => "=="
  | member => "in"
  | literal => "literal"
  | all => "all"
  | any => "any"
  | choose => "case"
  | lookup => "match"

/-- All operators. -/
def every : List Operator :=
  [property, upcase, slice, length, equal, member, literal, all, any, choose, lookup]

/-- The operator with the given name. -/
def named? (text : String) : Option Operator :=
  every.find? fun operator => operator.name = text

/-- Every operator is found by its own name, so no two of them share one. -/
theorem named?_name (operator : Operator) : named? operator.name = some operator := by
  cases operator <;> decide

end Operator

/-- Whether a value is the truth value true. No other value counts as true. -/
def isTrue : Value → Bool
  | .scalar (.bool truth) => truth
  | _ => false

/-- Whether a value is the given constant. -/
def isConstant (constant : Scalar) : Value → Bool
  | .scalar value => constant == value
  | _ => false

/-- The meaning of a choice from the meanings of its arguments: conditions and values by turns, and
at the end the value for when no condition is true. -/
def chosen : List (Option Value) → Option Value
  | [] => none
  | [last] => last
  | condition :: value :: rest =>
    condition.bind fun truth => if isTrue truth then value else chosen rest

/-- The meaning of a table from the meanings of what follows its input: labels and values by turns,
and at the end the value for when no label equals the input. -/
def found (input : Scalar) : List (Option Value) → Option Value
  | [] => none
  | [last] => last
  | label :: value :: rest =>
    label.bind fun label => if isConstant input label then value else found input rest

/-- The meaning of an operator with arguments, given the arguments as they are written and the
meaning of each. -/
def Operator.apply (feature : Feature) (operator : Operator) (arguments : List Value)
    (meanings : List (Option Value)) : Option Value :=
  match operator with
  | property => match meanings with
    | [some (.scalar name)] => name.wording?.map feature.property
    | _ => none
  | upcase => match meanings with
    | [some (.scalar (.text text))] => some (.text (Text.upper text))
    | _ => none
  | slice => match meanings with
    | [some (.scalar (.text text)), some (.scalar (.int start)), some (.scalar (.int stop))] =>
      some (.text (String.ofList (sliceChars text.toList start stop)))
    | _ => none
  | length => match meanings with
    | [some (.scalar (.text text))] => some (.int text.length)
    | _ => none
  | equal => match meanings with
    | [some (.scalar a), some (.scalar b)] => some (.scalar (.bool (a == b)))
    | _ => none
  | member => match meanings with
    | [some (.scalar constant), some (.list items)] =>
      some (.scalar (.bool (items.any (isConstant constant))))
    | _ => none
  | literal => match arguments with
    | [value] => some value
    | _ => none
  | all => (meanings.mapM id).map fun conditions => .scalar (.bool (conditions.all isTrue))
  | any => (meanings.mapM id).map fun conditions => .scalar (.bool (conditions.any isTrue))
  | choose => chosen meanings
  | lookup => match meanings with
    | some (.scalar input) :: rest => found input rest
    | _ => none

/-- The operator that a value names as the head of a list. -/
def operator? : Value → Option Operator
  | .scalar (.text name) => Operator.named? name
  | _ => none

mutual

/-- The meaning of a renderer expression for a feature. -/
def meaning (feature : Feature) : Value → Option Value
  | .scalar value => some (.scalar value)
  | .mapping entries => some (.mapping entries)
  | .list [] => none
  | .list (head :: arguments) =>
    (operator? head).bind fun operator =>
      operator.apply feature arguments (meanings feature arguments)

/-- The meanings of expressions, one by one. -/
def meanings (feature : Feature) : List Value → List (Option Value)
  | [] => []
  | value :: rest => meaning feature value :: meanings feature rest

end

/-- Meanings are taken one by one, so they can be taken in parts. -/
theorem meanings_append (feature : Feature) (first second : List Value) :
    meanings feature (first ++ second) = meanings feature first ++ meanings feature second := by
  induction first with
  | nil => rfl
  | cons value rest ih => rw [List.cons_append, meanings, meanings, ih, List.cons_append]

/-- A call means the operator of its name applied to its arguments. -/
theorem meaning_call {operator : Operator} {name : String}
    (h : Operator.named? name = some operator) (feature : Feature) (arguments : List Value) :
    meaning feature (call name arguments) =
      operator.apply feature arguments (meanings feature arguments) := by
  have hhead : operator? (.text name) = some operator := h
  rw [call, meaning, hhead, Option.bind_some]

end DistrictAtlas.Renderer
