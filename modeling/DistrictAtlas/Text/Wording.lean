import DistrictAtlas.Number.Digits
import DistrictAtlas.Text.Blank
import DistrictAtlas.Text.Quoted

/-!
# Wordings

Texts as they come from outside. Where characters are written by code units, one beyond the first plane
is a pair of halves, and half a character may be written without the other half. A text that holds such
a half is torn. It can be kept, trimmed and shown like any other text, but it cannot be encoded in
UTF-8, so it is neither printed nor put in a file.
-/

namespace DistrictAtlas

/-- Half of a character. -/
structure Half where
  /-- The number of its code unit. -/
  code : Nat
  /-- No character has such a number. -/
  isHalf : 0xD800 ≤ code ∧ code < 0xE000
deriving DecidableEq, Repr

/-- What a text from outside is made of. -/
inductive TextPiece where
  /-- A character. -/
  | char (c : Char)
  /-- Half of a character, standing alone. -/
  | half (unit : Half)
deriving DecidableEq, Repr

namespace TextPiece

/-- The piece with a number, which is that of a character or of half of one. -/
def ofCode (n : Nat) : TextPiece :=
  if h : 0xD800 ≤ n ∧ n < 0xE000 then half ⟨n, h⟩ else char (Char.ofNat n)

/-- Whether the piece is half of a character. -/
def isHalf : TextPiece → Bool
  | char _ => false
  | half _ => true

/-- The number of the piece. -/
def code : TextPiece → Nat
  | char c => c.toNat
  | half unit => unit.code

/-- The piece as a character, if it is one. -/
def char? : TextPiece → Option Char
  | char c => some c
  | half _ => none

/-- The piece as a character, the replacement character standing for half of one. -/
def mended : TextPiece → Char
  | char c => c
  | half _ => Char.ofNat 0xFFFD

/-- Whether the piece is white space. -/
def isBlank : TextPiece → Bool
  | char c => Text.isBlank c
  | half _ => false

/-- The pieces without the blanks at either end. -/
def trim (pieces : List TextPiece) : List TextPiece :=
  ((pieces.dropWhile isBlank).reverse.dropWhile isBlank).reverse

/-- Half of a character is no blank, so it stays where blanks are dropped. -/
theorem any_isHalf_dropWhile (pieces : List TextPiece) :
    (pieces.dropWhile isBlank).any isHalf = pieces.any isHalf := by
  induction pieces with
  | nil => rfl
  | cons piece rest ih =>
    cases hblank : piece.isBlank with
    | false => rw [List.dropWhile_cons, hblank, if_neg Bool.false_ne_true]
    | true =>
      have hwhole : piece.isHalf = false := by
        cases piece with
        | char c => rfl
        | half unit => cases hblank
      rw [List.dropWhile_cons, hblank, if_pos rfl, ih, List.any_cons, hwhole, Bool.false_or]

/-- Trimming leaves the halves. -/
theorem any_isHalf_trim (pieces : List TextPiece) : (trim pieces).any isHalf = pieces.any isHalf := by
  rw [trim, List.any_reverse, any_isHalf_dropWhile, List.any_reverse, any_isHalf_dropWhile]

/-- One piece of a quoted text between the given quotes. -/
def quote (mark : Char) : TextPiece → List Char
  | char c => Text.quoteChar mark c
  | half unit => '\\' :: 'u' :: Text.hexDigits 4 unit.code

end TextPiece

/-- A text in which half a character stands alone. -/
structure Torn where
  /-- Its pieces. -/
  pieces : List TextPiece
  /-- One of them is half a character. -/
  holdsHalf : pieces.any TextPiece.isHalf = true
deriving DecidableEq, Repr

namespace Torn

/-- The text without the blanks at either end. -/
def trim (text : Torn) : Torn :=
  ⟨TextPiece.trim text.pieces, (TextPiece.any_isHalf_trim text.pieces).trans text.holdsHalf⟩

/-- The text with another one in front of it. -/
def behind (lead : String) (text : Torn) : Torn :=
  ⟨lead.toList.map TextPiece.char ++ text.pieces, by
    rw [List.any_append, text.holdsHalf, Bool.or_true]⟩

/-- The text with the replacement character in place of every half. -/
def mended (text : Torn) : String :=
  String.ofList (text.pieces.map TextPiece.mended)

/-- The text as a message shows it. -/
def shown (text : Torn) : String :=
  let mark := Text.quoteMark (text.pieces.filterMap TextPiece.char?)
  String.ofList (mark :: (text.pieces.flatMap (TextPiece.quote mark) ++ [mark]))

/-- Why the text cannot be encoded: its first halves, and how many pieces stand before them. -/
def complaint (text : Torn) : String :=
  let before := (text.pieces.takeWhile (!·.isHalf)).length
  let rest := text.pieces.drop before
  let number (n : Nat) : String := String.ofList (Digits.ofNat n)
  let what := match rest.takeWhile (·.isHalf) with
    | [half] => "character " ++ String.ofList ('\'' :: (half.quote '\'' ++ ['\''])) ++
        " in position " ++ number before
    | halves => "characters in position " ++ number before ++ "-" ++
        number (before + halves.length - 1)
  "'utf-8' codec can't encode " ++ what ++ ": surrogates not allowed"

end Torn

/-- A text from outside. -/
inductive Wording where
  /-- A text that is made of characters. -/
  | whole (text : String)
  /-- A text that is torn. -/
  | torn (text : Torn)
deriving DecidableEq, Repr

namespace Wording

/-- The text that is made of the pieces. -/
def ofPieces (pieces : List TextPiece) : Wording :=
  if h : pieces.any TextPiece.isHalf = true then torn ⟨pieces, h⟩
  else whole (String.ofList (pieces.map TextPiece.mended))

/-- The pieces of the text. -/
def pieces : Wording → List TextPiece
  | whole text => text.toList.map TextPiece.char
  | torn text => text.pieces

/-- Whether the first row of numbers does not come after the second; the first difference decides. -/
def leCodes : List Nat → List Nat → Bool
  | [], _ => true
  | _ :: _, [] => false
  | a :: as, b :: bs => if a = b then leCodes as bs else a < b

/-- Whether the first text does not come after the second, by the numbers of their pieces. -/
def le (a b : Wording) : Bool :=
  leCodes (a.pieces.map TextPiece.code) (b.pieces.map TextPiece.code)

/-- The text, if it is whole. -/
def text? : Wording → Option String
  | whole text => some text
  | torn _ => none

/-- The text with the replacement character in place of every half. -/
def mended : Wording → String
  | whole text => text
  | torn text => text.mended

/-- The text without the blanks at either end. -/
def trim : Wording → Wording
  | whole text => whole (Text.trim text)
  | torn text => torn text.trim

/-- Whether there is nothing in the text. -/
def isEmpty : Wording → Bool
  | whole text => text.isEmpty
  | torn _ => false

/-- Whether there is nothing but white space in the text. -/
def isBlank : Wording → Bool
  | whole text => Text.isBlankText text
  | torn _ => false

/-- The text with another one in front of it. -/
def behind (lead : String) : Wording → Wording
  | whole text => whole (lead ++ text)
  | torn text => torn (text.behind lead)

/-- The texts one behind the other. -/
def join (wordings : List Wording) : Wording :=
  ofPieces (wordings.flatMap pieces)

/-- Pieces that are all characters make a whole text. -/
theorem ofPieces_map_char (cs : List Char) :
    ofPieces (cs.map TextPiece.char) = whole (String.ofList cs) := by
  have hwhole : (cs.map TextPiece.char).any TextPiece.isHalf = false := by
    rw [List.any_map, List.any_eq_false]
    exact fun _ _ => Bool.false_ne_true
  rw [ofPieces, dif_neg (Bool.not_eq_true _ ▸ hwhole), List.map_map]
  exact congrArg (fun cs => whole (String.ofList cs)) (List.map_id cs)

end Wording

end DistrictAtlas
