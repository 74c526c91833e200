/-!
# Places in a YAML text

A cursor is a place in a text: what follows, and the line and column where it stands. Blocks are told
apart by columns, and a key has to stand on one line, so both are counted along.
-/

namespace DistrictAtlas.Yaml

/-- A place in a text. -/
structure Cursor where
  /-- The text from here on. -/
  rest : List Char
  /-- Number of line ends before. -/
  line : Nat := 0
  /-- Number of characters before on the line. -/
  column : Nat := 0
  /-- Number of characters before in the text. -/
  offset : Nat := 0

/-- Whether the character ends a line. -/
def isBreak (c : Char) : Bool :=
  c = '\n' || c = '\r' || c.toNat = 0x85 || c.toNat = 0x2028 || c.toNat = 0x2029

/-- The mark that may open a text; it takes no room on a line. -/
def orderMark : Char := Char.ofNat 0xFEFF

/-- Whether the character is a space, a tabulator or a line end. -/
def isGap (c : Char) : Bool := c = ' ' || c = '\t' || isBreak c

/-- Whether the text is at its end or at a space, a tabulator or a line end. -/
def atGap : List Char → Bool
  | [] => true
  | c :: _ => isGap c

/-- What a line end counts for in a text: a line feed, unless it is a separator of its own. -/
def breakText (c : Char) : Char :=
  if c.toNat = 0x2028 ∨ c.toNat = 0x2029 then c else '\n'

namespace Cursor

/-- The place behind the next character; a carriage return and a line feed count as one. -/
def next (cursor : Cursor) : Cursor :=
  match cursor.rest with
  | [] => cursor
  | '\r' :: '\n' :: rest =>
    { rest, line := cursor.line + 1, column := 0, offset := cursor.offset + 2 }
  | c :: rest =>
    if isBreak c then { rest, line := cursor.line + 1, column := 0, offset := cursor.offset + 1 }
    else
      { rest, line := cursor.line, offset := cursor.offset + 1
        column := if c = orderMark then cursor.column else cursor.column + 1 }

/-- The place behind so many characters of the same line. -/
def skip (cursor : Cursor) (count : Nat) : Cursor :=
  { cursor with
    rest := cursor.rest.drop count, offset := cursor.offset + count
    column := cursor.column + ((cursor.rest.take count).filter (· ≠ orderMark)).length }

/-- The place behind the spaces. -/
def skipSpaces (cursor : Cursor) : Cursor :=
  cursor.skip (cursor.rest.takeWhile (· = ' ')).length

/-- The place behind the rest of the line. -/
def skipLine (cursor : Cursor) : Cursor :=
  cursor.skip (cursor.rest.takeWhile fun c => !isBreak c).length

/-- The next place where something stands that is no space, comment or line end; `fuel` bounds the
number of lines. -/
def toContent : (fuel : Nat) → Cursor → Cursor
  | 0, cursor => cursor
  | fuel + 1, cursor =>
    let cursor := cursor.skipSpaces
    let cursor := if cursor.rest.head? = some '#' then cursor.skipLine else cursor
    match cursor.rest with
    | [] => cursor
    | c :: _ => if isBreak c then toContent fuel cursor.next else cursor

/-- The next place where something stands that is no space, comment or line end; a mark that opens the
text is passed over too. `size` is the number of characters of the text at least. -/
def content (size : Nat) (cursor : Cursor) : Cursor :=
  let cursor :=
    if cursor.offset = 0 && cursor.rest.head? = some orderMark then cursor.next else cursor
  toContent (size + 1) cursor

/-- Whether a line begins here with three of these characters and a gap behind them. -/
def atMark (cursor : Cursor) (c : Char) : Bool :=
  cursor.column = 0 && cursor.rest.take 3 = [c, c, c] && atGap (cursor.rest.drop 3)

/-- Whether the beginning or the end of a document is marked here. -/
def atDocumentMark (cursor : Cursor) : Bool := cursor.atMark '-' || cursor.atMark '.'

end Cursor

end DistrictAtlas.Yaml
