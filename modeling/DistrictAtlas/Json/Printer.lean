import DistrictAtlas.Value
import DistrictAtlas.Text.CodeOrder

/-!
# JSON text

Documents as JSON, in one canonical form: two spaces for each level, one item on a line, keys in code
point order, and characters outside ASCII as they are. The text is made fragment by fragment, since two
things stop the writing in the middle: a number that is too long to be written, and a text that is torn
and cannot be encoded. What came before it stands. A second, one-line form serves records without
nesting.
-/

namespace DistrictAtlas.Json

/-- One character of a quoted text. -/
def escapeChar (c : Char) : List Char :=
  if c = '"' then ['\\', '"']
  else if c = '\\' then ['\\', '\\']
  else if c = '\n' then ['\\', 'n']
  else if c = '\r' then ['\\', 'r']
  else if c = '\t' then ['\\', 't']
  else if c = Char.ofNat 0x0C then ['\\', 'f']
  else if c = Char.ofNat 0x08 then ['\\', 'b']
  else if c.toNat < 0x20 then '\\' :: 'u' :: Text.hexDigits 4 c.toNat
  else [c]

/-- A text between double quotes. -/
def quoted (s : String) : String :=
  String.ofList ('"' :: (s.toList.flatMap escapeChar ++ ['"']))

/-- One piece of a quoted text. -/
def escapePiece : TextPiece → List TextPiece
  | .char c => (escapeChar c).map .char
  | .half unit => [.half unit]

/-- Escaping makes and takes away no halves. -/
theorem any_isHalf_escape (pieces : List TextPiece) :
    (pieces.flatMap escapePiece).any TextPiece.isHalf = pieces.any TextPiece.isHalf := by
  rw [List.any_flatMap]
  refine congrArg (List.any pieces) (funext fun piece => ?_)
  cases piece with
  | half unit => rfl
  | char c =>
    rw [escapePiece, List.any_map]
    exact List.any_eq_false.mpr fun _ _ => Bool.false_ne_true

/-- A torn text between double quotes. -/
def quotedTorn (s : Torn) : Torn :=
  ⟨.char '"' :: (s.pieces.flatMap escapePiece ++ [.char '"']), by
    rw [List.any_cons, List.any_append, any_isHalf_escape, s.holdsHalf]
    rfl⟩

/-- A text from outside between double quotes. -/
def quotedWording : Wording → Wording
  | .whole s => .whole (quoted s)
  | .torn s => .torn (quotedTorn s)

/-- A scalar, whatever the length of its number; in a torn text the replacement character stands for
half of one. -/
def scalarText : Scalar → String
  | .null => "null"
  | .bool true => "true"
  | .bool false => "false"
  | .int n => String.ofList (Digits.ofInt n)
  | .real x => x.text Binary64.jsonSpelling
  | .text s => quoted s
  | .torn s => quoted s.mended

/-- Whether the scalar is a number too long to be written. -/
def refuses : Scalar → Bool
  | .int n => Digits.tooLong n
  | _ => false

/-- The fragment of a scalar, or nothing when it is too long to be written. -/
def scalar? : Scalar → Option Wording
  | .torn s => some (.torn (quotedTorn s))
  | s => if refuses s then none else some (.whole (scalarText s))

/-- The text by which a mapping's key is put in order. -/
def keyText : Scalar → String
  | .text s => s
  | .torn s => s.mended
  | key => scalarText key

/-- The text of a mapping's key. -/
def keyWording : Scalar → Wording
  | .torn s => .torn s
  | key => .whole (keyText key)

/-- A line end and the indentation of the level. -/
def newline (level : Nat) : String :=
  String.ofList ('\n' :: List.replicate (2 * level) ' ')

mutual

/-- The fragments of a value whose inner lines stand one level below the given one. A missing
fragment is a number that was not written. -/
def fragments (level : Nat) : Value → List (Option Wording)
  | .scalar s => [scalar? s]
  | .list [] => [some (.whole "[]")]
  | .list items => itemFragments (level + 1) ("[" ++ newline (level + 1)) items ++
      [some (.whole (newline level)), some (.whole "]")]
  | .mapping [] => [some (.whole "\x7b\x7d")]
  | .mapping entries =>
    some (.whole "\x7b") :: entryFragments (level + 1) (newline (level + 1)) entries ++
      [some (.whole (newline level)), some (.whole "\x7d")]

/-- The fragments of list items; `lead` comes before the first and makes one fragment with it when
it is a scalar. -/
def itemFragments (level : Nat) (lead : String) : List Value → List (Option Wording)
  | [] => []
  | .scalar s :: rest =>
    (scalar? s).map (Wording.behind lead) :: itemFragments level ("," ++ newline level) rest
  | item :: rest =>
    some (.whole lead) :: fragments level item ++ itemFragments level ("," ++ newline level) rest

/-- The fragments of a mapping's entries; `lead` comes before the first. -/
def entryFragments (level : Nat) (lead : String) : List (Scalar × Value) → List (Option Wording)
  | [] => []
  | (key, value) :: rest =>
    some (.whole lead) :: some (quotedWording (keyWording key)) :: some (.whole ": ") ::
      (fragments level value ++ entryFragments level ("," ++ newline level) rest)

end

/-- Entries in the code point order of their keys. -/
def sortEntries (entries : List (Scalar × Value)) : List (Scalar × Value) :=
  entries.mergeSort fun a b => Text.le (keyText a.1) (keyText b.1)

mutual

/-- The value with the entries of every mapping in the order of their keys. -/
def canonical : Value → Value
  | .scalar s => .scalar s
  | .list items => .list (canonicalItems items)
  | .mapping entries => .mapping (sortEntries (canonicalEntries entries))

/-- The items, each in canonical form. -/
def canonicalItems : List Value → List Value
  | [] => []
  | item :: rest => canonical item :: canonicalItems rest

/-- The entries, their values in canonical form. -/
def canonicalEntries : List (Scalar × Value) → List (Scalar × Value)
  | [] => []
  | (key, value) :: rest => (key, canonical value) :: canonicalEntries rest

end

/-- Why a document is not written to its end. -/
inductive Hindrance where
  /-- A number is too long. -/
  | number
  /-- The text that comes next is torn. -/
  | torn (text : Torn)
deriving DecidableEq, Repr

/-- Why a fragment is not written, if it is not. -/
def hindrance? : Option Wording → Option Hindrance
  | none => some .number
  | some (.torn text) => some (.torn text)
  | some (.whole _) => none

/-- What is written of fragments, which is the text before the first one that is not written, and why
this one is not. -/
def upToHindrance (parts : List (Option Wording)) : String × Option Hindrance :=
  (String.join (((parts.map (·.bind Wording.text?)).takeWhile (·.isSome)).filterMap id),
    parts.findSome? hindrance?)

/-- What is written of a document, and what stopped the writing, if anything did. -/
def transcript (value : Value) : String × Option Hindrance :=
  upToHindrance (fragments 0 (canonical value))

/-- The text of fragments that are put together before any of it is written. A number is found to be
too long while this is done, and a torn text only when the whole is to be written. -/
def assembled (parts : List (Option Wording)) : Except Hindrance String :=
  if parts.any (·.isNone) then .error .number
  else match Wording.join (parts.filterMap id) with
    | .whole text => .ok text
    | .torn text => .error (.torn text)

/-- The document as JSON. -/
def render (value : Value) : Except Hindrance String :=
  assembled (fragments 0 (canonical value))

/-- A record without nesting on one line, fields in the given order. -/
def line (fields : List (String × Scalar)) : String :=
  "\x7b" ++ ", ".intercalate (fields.map fun field =>
    quoted field.1 ++ ": " ++ scalarText field.2) ++ "\x7d"

end DistrictAtlas.Json
