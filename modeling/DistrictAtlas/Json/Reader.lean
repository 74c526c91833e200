import DistrictAtlas.Value

/-!
# Reading JSON

Documents from JSON text. Beside the standard notation the three constants for numbers that are not
finite are read. A key that comes twice keeps its first place and its last value. An escape may stand
for half a character without the other half; the text is torn then. A fault tells what was expected and
where; a whole number of more than 4300 digits is refused, and so is a document that is nested deeper
than it may be.
-/

namespace DistrictAtlas.Json

/-- What is wrong with a text. -/
inductive Problem where
  /-- A value should stand here. -/
  | value
  /-- A comma or the end of the list or mapping should stand here. -/
  | comma
  /-- A colon should stand here. -/
  | colon
  /-- A key in double quotes should stand here. -/
  | name
  /-- The text that starts here does not end. -/
  | unterminated
  /-- No such escape. -/
  | badEscape
  /-- A numeric escape without its four digits. -/
  | badUnicodeEscape
  /-- A control character inside a text. -/
  | controlCharacter
  /-- Something follows the document. -/
  | extraData
  /-- The text begins with a byte order mark. -/
  | byteOrderMark
deriving DecidableEq, Repr

/-- The wording of a problem. -/
def Problem.message : Problem → String
  | .value => "Expecting value"
  | .comma => "Expecting ',' delimiter"
  | .colon => "Expecting ':' delimiter"
  | .name => "Expecting property name enclosed in double quotes"
  | .unterminated => "Unterminated string starting at"
  | .badEscape => "Invalid \\escape"
  | .badUnicodeEscape => "Invalid \\uXXXX escape"
  | .controlCharacter => "Invalid control character at"
  | .extraData => "Extra data"
  | .byteOrderMark => "Unexpected UTF-8 BOM (decode using utf-8-sig)"

/-- What can be nested. -/
inductive Nested where
  /-- A list. -/
  | list
  /-- A mapping. -/
  | mapping
deriving DecidableEq, Repr

/-- How deep the lists and mappings of a document from outside may be nested where the program
usually runs. -/
def nestingLimit : Nat := 988

/-- The wording for what is nested too deep. -/
def Nested.message : Nested → String
  | .list => "maximum recursion depth exceeded while decoding a JSON array from a unicode string"
  | .mapping => "maximum recursion depth exceeded while decoding a JSON object from a unicode string"

/-- Why a text was not read. -/
inductive Fault where
  /-- The text is not JSON: the problem and the number of characters before it. -/
  | malformed (problem : Problem) (line column offset : Nat)
  /-- A number is too long. -/
  | number (refusal : Digits.Refusal)
  /-- A list or mapping is nested too deep. -/
  | tooDeep (nested : Nested)
deriving DecidableEq, Repr

/-- The wording of a fault. -/
def Fault.message : Fault → String
  | .malformed problem line column offset =>
    s!"{problem.message}: line {line} column {column} (char {offset})"
  | .number refusal => refusal.message
  | .tooDeep nested => nested.message

/-- A fault inside a text: the problem and the number of characters from it to the end. -/
inductive Stop where
  /-- The text is not JSON. -/
  | malformed (problem : Problem) (remaining : Nat)
  /-- A number is too long. -/
  | number (refusal : Digits.Refusal)
  /-- A list or mapping is nested too deep. -/
  | tooDeep (nested : Nested)
deriving DecidableEq, Repr

/-- The fault of a text that was left at a stop. -/
def Stop.locate (text : List Char) : Stop → Fault
  | .number refusal => .number refusal
  | .tooDeep nested => .tooDeep nested
  | .malformed problem remaining =>
    let before := text.take (text.length - remaining)
    let lineStart := before.reverse.takeWhile (· ≠ '\n')
    .malformed problem (before.count '\n' + 1) (lineStart.length + 1) before.length

/-- Whether the character may stand between the parts of a document. -/
def isSpace (c : Char) : Bool := c = ' ' || c = '\t' || c = '\n' || c = '\r'

/-- The text from the first character that is not a space. -/
def skipSpace (cs : List Char) : List Char := cs.dropWhile isSpace

/-- The number of four hexadecimal digits. -/
def hex4? : List Char → Option Nat
  | a :: b :: c :: d :: _ => do
    let a ← Text.hexValue? a
    let b ← Text.hexValue? b
    let c ← Text.hexValue? c
    let d ← Text.hexValue? d
    return ((a * 16 + b) * 16 + c) * 16 + d
  | _ => none

/-- Whether the code unit is the first half of a pair. -/
def isHighHalf (n : Nat) : Bool := 0xD800 ≤ n && n < 0xDC00

/-- Whether the code unit is the second half of a pair. -/
def isLowHalf (n : Nat) : Bool := 0xDC00 ≤ n && n < 0xE000

/-- What a numeric escape stands for, given the text after its `u`, and the number of characters that
belong to it: four, or ten when a second escape completes a pair. At least one character has to
follow. Half a pair by itself is kept as such. -/
def unicodeEscape (cs : List Char) : Except Stop (TextPiece × Nat) :=
  let bad (rest : List Char) : Except Stop (TextPiece × Nat) :=
    .error (.malformed .badUnicodeEscape (rest.length + 1))
  if (cs.drop 4).isEmpty then bad cs
  else match hex4? cs with
    | none => bad cs
    | some n =>
      match cs.drop 4 with
      | '\\' :: 'u' :: rest =>
        if isHighHalf n && !(rest.drop 4).isEmpty then
          match hex4? rest with
          | none => bad rest
          | some m =>
            if isLowHalf m then
              .ok (.char (Char.ofNat (0x10000 + (n - 0xD800) * 0x400 + (m - 0xDC00))), 10)
            else .ok (.ofCode n, 4)
        else .ok (.ofCode n, 4)
      | _ => .ok (.ofCode n, 4)

/-- The character of an escape with one letter. -/
def shortEscape? : Char → Option Char
  | '"' => some '"'
  | '\\' => some '\\'
  | '/' => some '/'
  | 'b' => some (Char.ofNat 0x08)
  | 'f' => some (Char.ofNat 0x0C)
  | 'n' => some '\n'
  | 'r' => some '\r'
  | 't' => some '\t'
  | _ => none

/-- Reads a text up to its closing quote. The characters behind the opening quote are `opened`, and
`done` holds what has been read in reverse. -/
def readText (opened : List Char) (done : List TextPiece) :
    List Char → Except Stop (Wording × List Char)
  | [] => .error (.malformed .unterminated (opened.length + 1))
  | '"' :: rest => .ok (.ofPieces done.reverse, rest)
  | '\\' :: [] => .error (.malformed .unterminated (opened.length + 1))
  | '\\' :: 'u' :: rest =>
    match unicodeEscape rest with
    | .error stop => .error stop
    | .ok (piece, used) => readText opened (piece :: done) (rest.drop used)
  | '\\' :: letter :: rest =>
    match shortEscape? letter with
    | none => .error (.malformed .badEscape (rest.length + 2))
    | some c => readText opened (.char c :: done) rest
  | c :: rest =>
    if c.toNat < 0x20 then .error (.malformed .controlCharacter (rest.length + 1))
    else readText opened (.char c :: done) rest
termination_by cs => cs.length
decreasing_by all_goals (simp only [List.length_drop, List.length_cons]; omega)

/-- The whole part of a number: a zero, or digits that do not start with one. -/
def wholePart : List Char → Option (List Char × List Char)
  | '0' :: rest => some (['0'], rest)
  | cs =>
    match cs.takeWhile Digits.isDigit with
    | [] => none
    | digits => some (digits, cs.dropWhile Digits.isDigit)

/-- The digits behind a point, where a digit follows it. -/
def fractionPart : List Char → List Char × List Char
  | '.' :: rest =>
    match rest.takeWhile Digits.isDigit with
    | [] => ([], '.' :: rest)
    | digits => (digits, rest.dropWhile Digits.isDigit)
  | cs => ([], cs)

/-- The exponent behind a letter, where a digit follows it. -/
def exponentPart (cs : List Char) : Option Int × List Char :=
  match cs with
  | e :: rest =>
    if e = 'e' ∨ e = 'E' then
      let (negative, unsigned) := match rest with
        | '-' :: more => (true, more)
        | '+' :: more => (false, more)
        | more => (false, more)
      match unsigned.takeWhile Digits.isDigit with
      | [] => (none, cs)
      | digits =>
        let n : Int := Digits.toNat digits
        (some (if negative then -n else n), unsigned.dropWhile Digits.isDigit)
    else (none, cs)
  | [] => (none, [])

/-- Reads a number. -/
def readNumber (cs : List Char) : Except Stop (Scalar × List Char) :=
  let (negative, unsigned) := match cs with
    | '-' :: rest => (true, rest)
    | rest => (false, rest)
  match wholePart unsigned with
  | none => .error (.malformed .value cs.length)
  | some (whole, rest) =>
    let (fraction, rest) := fractionPart rest
    let (exponent, rest) := exponentPart rest
    match fraction, exponent with
    | [], none =>
      match Digits.read whole with
      | .error refusal => .error (.number refusal)
      | .ok n => .ok (.int (if negative then -n else n), rest)
    | _, _ =>
      let digits := whole ++ fraction
      let power := exponent.getD 0 - fraction.length
      .ok (.real (Binary64.ofDecimal negative (Digits.toNat digits) digits.length power), rest)

/-- The words that stand for scalars. -/
def words : List (List Char × Scalar) :=
  [("null".toList, .null), ("true".toList, .bool true), ("false".toList, .bool false),
   ("NaN".toList, .real .nan), ("Infinity".toList, .real (.infinite false)),
   ("-Infinity".toList, .real (.infinite true))]

/-- Reads a word or a number. -/
def readScalar (cs : List Char) : Except Stop (Scalar × List Char) :=
  match words.find? fun word => word.1.isPrefixOf cs with
  | some word => .ok (word.2, cs.drop word.1.length)
  | none => readNumber cs

mutual

/-- Reads a value that starts here, in which lists and mappings may be nested `depth` times. Every call
spends one unit of `fuel`. -/
def readValue : (fuel depth : Nat) → List Char → Except Stop (Value × List Char)
  | 0, _, cs => .error (.malformed .value cs.length)
  | _ + 1, _, '"' :: rest =>
    match readText rest [] rest with
    | .error stop => .error stop
    | .ok (wording, rest) => .ok (.ofWording wording, rest)
  | _ + 1, 0, '[' :: _ => .error (.tooDeep .list)
  | _ + 1, 0, '\x7b' :: _ => .error (.tooDeep .mapping)
  | fuel + 1, depth + 1, '[' :: rest =>
    match skipSpace rest with
    | ']' :: rest => .ok (.list [], rest)
    | rest => readItems fuel depth [] rest
  | fuel + 1, depth + 1, '\x7b' :: rest =>
    match skipSpace rest with
    | '\x7d' :: rest => .ok (.mapping [], rest)
    | rest => readEntries fuel depth [] rest
  | _ + 1, _, cs =>
    match readScalar cs with
    | .error stop => .error stop
    | .ok (s, rest) => .ok (.scalar s, rest)

/-- Reads the items of a list from here to its end, behind those in `done` (in reverse). -/
def readItems : (fuel depth : Nat) → List Value → List Char → Except Stop (Value × List Char)
  | 0, _, _, cs => .error (.malformed .value cs.length)
  | fuel + 1, depth, done, cs =>
    match readValue fuel depth cs with
    | .error stop => .error stop
    | .ok (item, rest) =>
      match skipSpace rest with
      | ']' :: rest => .ok (.list (item :: done).reverse, rest)
      | ',' :: rest => readItems fuel depth (item :: done) (skipSpace rest)
      | rest => .error (.malformed .comma rest.length)

/-- Reads the entries of a mapping from here to its end, behind those in `done`. -/
def readEntries : (fuel depth : Nat) → List (Scalar × Value) → List Char →
    Except Stop (Value × List Char)
  | 0, _, _, cs => .error (.malformed .name cs.length)
  | fuel + 1, depth, done, '"' :: rest =>
    match readText rest [] rest with
    | .error stop => .error stop
    | .ok (key, rest) =>
      match skipSpace rest with
      | ':' :: rest =>
        match readValue fuel depth (skipSpace rest) with
        | .error stop => .error stop
        | .ok (value, rest) =>
          let done := Entries.put (.ofWording key) value done
          match skipSpace rest with
          | '\x7d' :: rest => .ok (.mapping done, rest)
          | ',' :: rest => readEntries fuel depth done (skipSpace rest)
          | rest => .error (.malformed .comma rest.length)
      | rest => .error (.malformed .colon rest.length)
  | _ + 1, _, _, cs => .error (.malformed .name cs.length)

end

/-- Reads a whole document, in which lists and mappings may be nested `depth` times. -/
def readDocument (depth : Nat) (cs : List Char) : Except Stop Value :=
  if cs.head? = some (Char.ofNat 0xFEFF) then .error (.malformed .byteOrderMark cs.length)
  else
    match readValue (2 * cs.length + 2) depth (skipSpace cs) with
    | .error stop => .error stop
    | .ok (value, rest) =>
      match skipSpace rest with
      | [] => .ok value
      | rest => .error (.malformed .extraData rest.length)

/-- The document that a text writes, if it is not nested deeper than this. -/
def readWithin (depth : Nat) (text : String) : Except Fault Value :=
  (readDocument depth text.toList).mapError (·.locate text.toList)

/-- The document that a text writes. It cannot be nested deeper than the text is long. -/
def read (text : String) : Except Fault Value :=
  readWithin text.length text

end DistrictAtlas.Json
