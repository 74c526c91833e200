import DistrictAtlas.Text.Blank
import DistrictAtlas.Text.Casing
import DistrictAtlas.Text.Split

/-!
# Tokens

A territory claims districts by tokens. A plain token claims one code; a token that ends in a plus
sign claims a code and its continuations by a letter; a token that ends in a star claims a code and
all its continuations. A cell lists tokens between vertical bars, or between semicolons when it holds
no bar. Tokens are trimmed and in upper case.
-/

namespace DistrictAtlas

/-- What a token claims. -/
inductive TokenKind where
  /-- The code itself. -/
  | exact
  /-- The code and its continuations by a letter. -/
  | letter
  /-- The code and all its continuations. -/
  | any
deriving DecidableEq, Repr

namespace TokenKind

/-- The name under which a kind is reported. -/
def name : TokenKind → String
  | exact => "exact"
  | letter => "letter_continuation"
  | any => "any_continuation"

/-- The mark at the end of a token of this kind. -/
def mark : TokenKind → List Char
  | exact => []
  | letter => ['+']
  | any => ['*']

end TokenKind

/-- A claim to districts. -/
structure Token where
  /-- What is claimed. -/
  kind : TokenKind
  /-- The code without the mark. -/
  code : String
  /-- The token as it is shown. -/
  text : String
deriving DecidableEq, Repr

namespace Token

/-- Characters in the form of a token: trimmed, then in upper case. -/
def tidy (cs : List Char) : List Char :=
  Text.upperChars (Text.trimChars cs)

/-- The kind of a token that ends in the given character. -/
def kindOfLast : Option Char → TokenKind
  | some '+' => .letter
  | some '*' => .any
  | _ => .exact

/-- The token that a text writes. -/
def read (text : String) : Token :=
  let cs := tidy text.toList
  let kind := kindOfLast cs.getLast?
  { kind
    code := String.ofList (if kind = .exact then cs else cs.dropLast)
    text := String.ofList cs }

/-- The character between the tokens of a cell. -/
def separator (cell : List Char) : Char :=
  if cell.contains ';' && !cell.contains '|' then ';' else '|'

/-- The texts of the tokens in a cell. -/
def texts (cell : String) : List String :=
  let cs := cell.toList
  let parts := (Text.splitChars (separator cs) cs).map tidy
  (parts.filter fun part => !part.isEmpty).map String.ofList

/-- The tokens in a cell, those without a code included. -/
def listed (cell : String) : List Token :=
  (texts cell).map read

/-- Whether the token claims nothing, as it has no code. -/
def isVoid (token : Token) : Bool :=
  token.code.isEmpty

end Token

end DistrictAtlas
