import DistrictAtlas.Yaml.Node
import DistrictAtlas.Yaml.Scalar

/-!
# Reading YAML

Documents from the part of YAML that settings files are written in: comments, block mappings and
sequences, flow mappings and sequences, and plain and quoted scalars. Anchors, tags, block scalars,
directives, and several documents in one text are refused, like everything that is not YAML at all. A
key has to be a scalar. Scalars are looked at only when the whole text has been understood, those
further out before those further in.
-/

namespace DistrictAtlas.Yaml

/-- The value of a scalar. -/
def scalarOf (text : Wording) (isPlain : Bool) : Except Fault Scalar :=
  match text, isPlain with
  | .whole word, true => plainScalar word
  | _, _ => .ok (.ofWording text)

/-- The value of a scalar as a key, for which the word for a default value is a text. -/
def keyOf (text : Wording) (isPlain : Bool) : Except Fault Scalar :=
  if text = .whole "=" then .ok (.ofWording text) else scalarOf text isPlain

/-- The fault of a result, if it is one. -/
def faultOf {α : Type} : Except Fault α → List Fault
  | .error fault => [fault]
  | .ok _ => []

/-- Two lists of levels side by side. -/
def besides (left right : List (List Fault)) : List (List Fault) :=
  match left, right with
  | [], levels => levels
  | levels, [] => levels
  | level :: left, level' :: right => (level ++ level') :: besides left right

namespace Node

/-- The faults of a tree as a key. -/
def keyFaults : Node → List Fault
  | .scalar text isPlain => faultOf (keyOf text isPlain)
  | _ => [.malformed]

mutual

/-- The faults in a tree, by their distance from the root. -/
def faults : Node → List (List Fault)
  | .scalar text isPlain => [faultOf (scalarOf text isPlain)]
  | .sequence items => [] :: itemFaults items
  | .mapping entries => [] :: entryFaults entries

/-- The faults in the items of a sequence. -/
def itemFaults : List Node → List (List Fault)
  | [] => []
  | item :: rest => besides item.faults (itemFaults rest)

/-- The faults in the entries of a mapping. -/
def entryFaults : List (Node × Node) → List (List Fault)
  | [] => []
  | (key, value) :: rest => besides [key.keyFaults] (besides value.faults (entryFaults rest))

end

/-- The value of a tree as a key. -/
def key : Node → Scalar
  | .scalar text isPlain => (keyOf text isPlain).toOption.getD .null
  | _ => .null

mutual

/-- The value of a tree without faults. -/
def value : Node → Value
  | .scalar text isPlain => .scalar ((scalarOf text isPlain).toOption.getD .null)
  | .sequence items => .list (itemValues items)
  | .mapping entries => .mapping (entryValues [] entries)

/-- The values of the items of a sequence. -/
def itemValues : List Node → List Value
  | [] => []
  | item :: rest => item.value :: itemValues rest

/-- The entries of a mapping, put behind those in `done`. -/
def entryValues (done : List (Scalar × Value)) : List (Node × Node) → List (Scalar × Value)
  | [] => done
  | (key, value) :: rest => entryValues (Entries.put key.key value.value done) rest

end

end Node

/-- The document that a text writes; a text without one writes the empty value. -/
def read (supply : Supply) : Except Fault Value := do
  match ← Node.ofTokens (Token.listOf supply) with
  | none => return .null
  | some node =>
    match node.faults.flatten with
    | fault :: _ => throw fault
    | [] => return node.value

end DistrictAtlas.Yaml
