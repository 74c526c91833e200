import DistrictAtlas.Text.Wording
import DistrictAtlas.Yaml.Cursor
import DistrictAtlas.Yaml.Fault

/-!
# Scalars as they are written

Reading the characters of a scalar off a text: plain, between single quotes, or between double quotes
with escapes. A scalar may go on over several lines; a line end inside counts as a space, and further
empty lines count as line ends.
-/

namespace DistrictAtlas.Yaml

/-- The characters that have a meaning at the beginning of a scalar. -/
def indicators : List Char := "-?:,[]\x7b\x7d#&*!|>'\"%@`".toList

/-- Whether a plain scalar can begin here. -/
def startsPlain (flow : Bool) : List Char → Bool
  | [] => false
  | c :: rest =>
    if isGap c then false
    else if !indicators.contains c then true
    else !atGap rest && (c = '-' || (!flow && (c = '?' || c = ':')))

/-- Whether a plain scalar cannot go on with the character, given what follows it. Between brackets
the characters that part entries end it too. -/
def endsPlain (flow : Bool) (c : Char) (rest : List Char) : Bool :=
  isGap c ||
  (c = ':' && (atGap rest || (flow && rest.head?.any fun d => [',', '[', ']', '\x7b', '\x7d'].contains d))) ||
  (flow && [',', '?', '[', ']', '\x7b', '\x7d'].contains c)

/-- The characters up to the end of a piece of a plain scalar without gaps; those before are in
`done`, in reverse. -/
def plainPiece (flow : Bool) (done : List Char) : List Char → List Char
  | [] => done.reverse
  | c :: rest => if endsPlain flow c rest then done.reverse else plainPiece flow (c :: done) rest

/-- Passes over spaces and line ends and collects the line ends in `done`; stops, with nothing, where
the beginning or end of a document is marked. -/
def blankLines : (fuel : Nat) → List Char → Cursor → Option (List Char × Cursor)
  | 0, done, cursor => some (done.reverse, cursor)
  | fuel + 1, done, cursor =>
    match cursor.rest with
    | [] => some (done.reverse, cursor)
    | c :: _ =>
      if c = ' ' then blankLines fuel done cursor.next
      else if isBreak c then
        let after := cursor.next
        if after.atDocumentMark then none else blankLines fuel (breakText c :: done) after
      else some (done.reverse, cursor)

/-- What line ends inside a scalar count for. -/
def foldBreaks (first : Char) (others : List Char) : List Char :=
  if breakText first ≠ '\n' then breakText first :: others
  else if others.isEmpty then [' '] else others

/-- The gap behind a piece of a plain scalar and the place behind it. There is none, so that the
scalar ends, where nothing separates and where a document mark stands. -/
def plainGap (cursor : Cursor) : List Char × Cursor :=
  let behind := cursor.skipSpaces
  let spaces := cursor.rest.takeWhile (· = ' ')
  match behind.rest with
  | [] => (spaces, behind)
  | c :: _ =>
    if isBreak c then
      let after := behind.next
      if after.atDocumentMark then ([], after)
      else match blankLines (after.rest.length + 1) [] after with
        | none => ([], after)
        | some (others, place) => (foldBreaks c others, place)
    else (spaces, behind)

/-- A plain scalar that was read. -/
structure Plain where
  /-- Its text. -/
  text : String
  /-- The place behind it and behind the gap that follows it. -/
  place : Cursor
  /-- Whether that gap holds a line end. -/
  endsLine : Bool

/-- Reads a plain scalar whose further lines are indented to `indent` at least, unless it stands
between brackets. What was read before is in `done`, in reverse, and `gap` separates it from what
comes; `endsLine` says whether it holds a line end. -/
def readPlain (flow : Bool) (indent : Nat) : (fuel : Nat) → List Char → List Char → (endsLine : Bool) →
    Cursor → Plain
  | 0, done, _, endsLine, cursor => ⟨String.ofList done.reverse, cursor, endsLine⟩
  | fuel + 1, done, gap, endsLine, cursor =>
    if cursor.rest.head? = some '#' then ⟨String.ofList done.reverse, cursor, endsLine⟩
    else match plainPiece flow [] cursor.rest with
      | [] => ⟨String.ofList done.reverse, cursor, endsLine⟩
      | piece =>
        let done := piece.reverse ++ (gap.reverse ++ done)
        let (gap, place) := plainGap (cursor.skip piece.length)
        let endsLine := place.line ≠ cursor.line
        if gap.isEmpty || (!flow && place.column < indent) then
          ⟨String.ofList done.reverse, place, endsLine⟩
        else readPlain flow indent fuel done gap endsLine place

/-- Reads a plain scalar in a text of `size` characters at most. -/
def plain (size : Nat) (flow : Bool) (indent : Nat) (cursor : Cursor) : Plain :=
  readPlain flow indent (size + 1) [] [] false cursor

/-- Why a scalar between quotes was not read. -/
inductive Stop where
  /-- The text ends inside. -/
  | ended
  /-- Something in it is wrong. -/
  | fault (fault : Fault)
deriving DecidableEq, Repr

/-- Passes over blanks and line ends inside quotes and collects the line ends. No document mark may
stand there. -/
def quotedBreaks : (fuel : Nat) → List Char → Cursor → Except Stop (List Char × Cursor)
  | 0, done, cursor => .ok (done.reverse, cursor)
  | fuel + 1, done, cursor =>
    if cursor.atDocumentMark then .error (.fault .malformed)
    else
      let blanks := (cursor.rest.takeWhile fun c => c = ' ' || c = '\t').length
      let cursor := cursor.skip blanks
      match cursor.rest with
      | [] => .ok (done.reverse, cursor)
      | c :: _ =>
        if isBreak c then quotedBreaks fuel (breakText c :: done) cursor.next
        else .ok (done.reverse, cursor)

/-- What a gap inside quotes counts for, and the place behind it. -/
def quotedGap (cursor : Cursor) : Except Stop (List Char × Cursor) :=
  let blanks := cursor.rest.takeWhile fun c => c = ' ' || c = '\t'
  let behind := cursor.skip blanks.length
  match behind.rest with
  | [] => .error .ended
  | c :: _ =>
    if isBreak c then
      (quotedBreaks (behind.rest.length + 1) [] behind.next).map fun (others, place) =>
        (foldBreaks c others, place)
    else .ok (blanks, behind)

/-- The character of an escape with one letter. -/
def letterEscape? : Char → Option Char
  | '0' => some (Char.ofNat 0x00)
  | 'a' => some (Char.ofNat 0x07)
  | 'b' => some (Char.ofNat 0x08)
  | 't' => some '\t'
  | '\t' => some '\t'
  | 'n' => some '\n'
  | 'v' => some (Char.ofNat 0x0B)
  | 'f' => some (Char.ofNat 0x0C)
  | 'r' => some '\r'
  | 'e' => some (Char.ofNat 0x1B)
  | ' ' => some ' '
  | '"' => some '"'
  | '\\' => some '\\'
  | '/' => some '/'
  | 'N' => some (Char.ofNat 0x85)
  | '_' => some (Char.ofNat 0xA0)
  | 'L' => some (Char.ofNat 0x2028)
  | 'P' => some (Char.ofNat 0x2029)
  | _ => none

/-- The number of digits behind the letter of a numeric escape. -/
def escapeWidth? : Char → Option Nat
  | 'x' => some 2
  | 'u' => some 4
  | 'U' => some 8
  | _ => none

/-- The number that so many hexadecimal digits write; there have to be so many. -/
def hexNumber : (width : Nat) → (number : Nat) → List Char → Except Stop Nat
  | 0, number, _ => .ok number
  | _ + 1, _, [] => .error .ended
  | width + 1, number, c :: rest =>
    match Text.hexValue? c with
    | none => .error (.fault .malformed)
    | some digit => hexNumber width (number * 16 + digit) rest

/-- What an escape stands for, and the place behind it; `cursor` is behind the backslash. Half a
character stands alone whatever comes next. -/
def readEscape (cursor : Cursor) : Except Stop (List TextPiece × Cursor) :=
  match cursor.rest with
  | [] => .error .ended
  | c :: rest =>
    match letterEscape? c, escapeWidth? c with
    | some image, _ => .ok ([.char image], cursor.skip 1)
    | none, some width =>
      match hexNumber width 0 rest with
      | .error stop => .error stop
      | .ok n =>
        if n < 0x110000 then .ok ([.ofCode n], cursor.skip (width + 1))
        else .error (.fault (.character n))
    | none, none =>
      if isBreak c then
        (quotedBreaks (rest.length + 1) [] cursor.next).map fun (breaks, place) =>
          (breaks.map .char, place)
      else .error (.fault .malformed)

/-- Reads a scalar between quotes up to the closing one. -/
def readQuoted (mark : Char) :
    (fuel : Nat) → List TextPiece → Cursor → Except Stop (Wording × Cursor)
  | 0, _, _ => .error .ended
  | fuel + 1, done, cursor =>
    match cursor.rest with
    | [] => .error .ended
    | c :: rest =>
      if c = mark then
        if mark = '\'' && rest.head? = some '\'' then
          readQuoted mark fuel (.char '\'' :: done) (cursor.skip 2)
        else .ok (.ofPieces done.reverse, cursor.skip 1)
      else if c = '\\' && mark = '"' then
        match readEscape (cursor.skip 1) with
        | .error stop => .error stop
        | .ok (image, place) => readQuoted mark fuel (image.reverse ++ done) place
      else if isGap c then
        match quotedGap cursor with
        | .error stop => .error stop
        | .ok (gap, place) => readQuoted mark fuel ((gap.map .char).reverse ++ done) place
      else readQuoted mark fuel (.char c :: done) (cursor.skip 1)

/-- Reads a scalar between quotes in a text of `size` characters at most; `cursor` is at the opening
quote. -/
def quoted (size : Nat) (mark : Char) (cursor : Cursor) : Except Stop (Wording × Cursor) :=
  readQuoted mark (size + 1) [] (cursor.skip 1)

end DistrictAtlas.Yaml
