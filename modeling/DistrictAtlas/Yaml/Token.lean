import DistrictAtlas.Yaml.Supply
import DistrictAtlas.Yaml.Text

/-!
# Tokens of YAML

The tokens that a text consists of, among them those that nothing but indentation shows: where a list
with dashes or a mapping begins and ends, and that a scalar is a key. Whether it is one shows only at
the colon behind it, so a possible key is remembered as long as a colon may follow: on the same line
and not too far. The tokens end with the end of the text or with a fault, which then is met only by
those who have used all tokens before it.
-/

namespace DistrictAtlas.Yaml

/-- A token. -/
inductive Token where
  /-- The end of the text. -/
  | streamEnd
  /-- Three dashes, where a document begins. -/
  | documentStart
  /-- Three points, where a document ends. -/
  | documentEnd
  /-- A list with dashes begins. -/
  | blockSequence
  /-- A mapping with a key on each line begins. -/
  | blockMapping
  /-- A list with dashes or a mapping with a key on each line ends. -/
  | blockEnd
  /-- An opening bracket. -/
  | flowSequence
  /-- A closing bracket. -/
  | flowSequenceEnd
  /-- An opening brace. -/
  | flowMapping
  /-- A closing brace. -/
  | flowMappingEnd
  /-- The dash of an item. -/
  | entry
  /-- A comma. -/
  | separator
  /-- A key follows. -/
  | key
  /-- The colon of a key: a value follows. -/
  | value
  /-- A scalar, without quotes if it is plain. -/
  | scalar (text : Wording) (isPlain : Bool)
  /-- Nothing more can be read. -/
  | fault (fault : Fault)
deriving DecidableEq, Repr

/-- What may turn out to be a key. -/
structure Candidate where
  /-- Number of tokens before it. -/
  position : Nat
  /-- Whether nothing else than a key may stand there. -/
  isRequired : Bool
  /-- Where it begins. -/
  start : Cursor

/-- The greatest distance from the beginning of a key to its colon. -/
def keyLimit : Nat := 1024

/-- Whether no colon that makes a key of the candidate can stand at the place any more. -/
def Candidate.isStale (candidate : Candidate) (cursor : Cursor) : Bool :=
  candidate.start.line ≠ cursor.line || keyLimit < cursor.offset - candidate.start.offset

/-- A scan of a text. -/
structure Scan where
  /-- Number of characters of the text. -/
  size : Nat
  /-- Why the text breaks off, if it does. -/
  cut : Option Fault
  /-- The place that was reached. -/
  cursor : Cursor
  /-- The tokens before it, last first. -/
  tokens : List Token := []
  /-- The number of these. -/
  count : Nat := 0
  /-- The column of the list or mapping that is open without brackets. -/
  indent : Int := -1
  /-- The columns of those around it, from the inside out. -/
  outerIndents : List Int := []
  /-- The candidate between the innermost brackets, if there is one, and those around them. -/
  candidate : Option Candidate := none
  /-- The candidates between the brackets around these, from the inside out. -/
  outerCandidates : List (Option Candidate) := []
  /-- Whether a key may begin here. -/
  allowsKey : Bool := true

namespace Scan

/-- Whether the place is between brackets. -/
def inFlow (scan : Scan) : Bool := !scan.outerCandidates.isEmpty

/-- Adds a token. -/
def push (scan : Scan) (token : Token) : Scan :=
  { scan with tokens := token :: scan.tokens, count := scan.count + 1 }

/-- Adds a token of one character. -/
def pushMark (scan : Scan) (token : Token) : Scan :=
  { scan.push token with cursor := scan.cursor.skip 1 }

/-- Puts a token in front of those behind the first `position` ones. -/
def insert (scan : Scan) (position : Nat) (token : Token) : Scan :=
  let behind := scan.count - position
  { scan with
    tokens := scan.tokens.take behind ++ token :: scan.tokens.drop behind, count := scan.count + 1 }

/-- A candidate that has to be a key cannot be given up; any other can. -/
def giveUp : Option Candidate → Except Fault Unit
  | none => .ok ()
  | some candidate => if candidate.isRequired then .error .malformed else .ok ()

/-- Gives up the candidate between the innermost brackets. -/
def dropCandidate (scan : Scan) : Except Fault Scan :=
  (giveUp scan.candidate).map fun _ => { scan with candidate := none }

/-- The candidates of a list that are not stale; the stale ones are given up. -/
def fresh (cursor : Cursor) : List (Option Candidate) → Except Fault (List (Option Candidate))
  | [] => .ok []
  | candidate :: rest => do
    let rest ← fresh cursor rest
    if candidate.any (·.isStale cursor) then
      giveUp candidate
      return none :: rest
    else return candidate :: rest

/-- Gives up all stale candidates. -/
def dropStale (scan : Scan) : Except Fault Scan := do
  match ← fresh scan.cursor (scan.candidate :: scan.outerCandidates) with
  | [] => return scan
  | candidate :: outerCandidates => return { scan with candidate, outerCandidates }

/-- Takes what begins here for a candidate, where a key may begin. -/
def offer (scan : Scan) : Except Fault Scan := do
  if scan.allowsKey then
    let scan ← scan.dropCandidate
    let isRequired := !scan.inFlow && decide (scan.indent = scan.cursor.column)
    return { scan with candidate := some ⟨scan.count, isRequired, scan.cursor⟩ }
  else return scan

/-- Ends the lists and mappings that are open further right than the column; there are `fuel` at
most. -/
def unwind (column : Int) : (fuel : Nat) → Scan → Scan
  | 0, scan => scan
  | fuel + 1, scan =>
    if scan.inFlow || scan.indent ≤ column then scan
    else
      unwind column fuel { scan.push .blockEnd with
        indent := scan.outerIndents.headD (-1), outerIndents := scan.outerIndents.drop 1 }

/-- Ends the lists and mappings that are open further right than the column. -/
def closeTo (scan : Scan) (column : Int) : Scan :=
  unwind column (scan.outerIndents.length + 1) scan

/-- Opens a list or mapping in the column, its first token behind the first `position` ones, unless one
is open there. -/
def openAt (scan : Scan) (column : Int) (position : Nat) (token : Token) : Scan :=
  if scan.indent < column then
    { scan.insert position token with
      indent := column, outerIndents := scan.indent :: scan.outerIndents }
  else scan

/-- Reads the mark of a document. -/
def documentMark (scan : Scan) (token : Token) : Except Fault Scan := do
  let scan ← (scan.closeTo (-1)).dropCandidate
  return { scan.push token with allowsKey := false, cursor := scan.cursor.skip 3 }

/-- Reads an opening bracket or brace. -/
def opening (scan : Scan) (token : Token) : Except Fault Scan := do
  let scan ← scan.offer
  return { scan.pushMark token with
    allowsKey := true, candidate := none
    outerCandidates := scan.candidate :: scan.outerCandidates }

/-- Reads a closing bracket or brace. -/
def closing (scan : Scan) (token : Token) : Except Fault Scan := do
  let scan ← scan.dropCandidate
  return { scan.pushMark token with
    allowsKey := false, candidate := scan.outerCandidates.headD none
    outerCandidates := scan.outerCandidates.drop 1 }

/-- Reads a comma between brackets. -/
def comma (scan : Scan) : Except Fault Scan := do
  let scan ← scan.dropCandidate
  return { scan.pushMark .separator with allowsKey := true }

/-- Opens a list or mapping at the mark that stands here, where no brackets do it. -/
def openHere (scan : Scan) (token : Token) : Except Fault Scan :=
  if scan.inFlow then .ok scan
  else if scan.allowsKey then .ok (scan.openAt scan.cursor.column scan.count token)
  else .error .malformed

/-- Reads the dash of an item. -/
def dash (scan : Scan) : Except Fault Scan := do
  let scan ← (← scan.openHere .blockSequence).dropCandidate
  return { scan.pushMark .entry with allowsKey := true }

/-- Reads the question mark of a key. -/
def question (scan : Scan) : Except Fault Scan := do
  let scan ← (← scan.openHere .blockMapping).dropCandidate
  return { scan.pushMark .key with allowsKey := !scan.inFlow }

/-- Reads the colon of a value; it makes a key of the candidate. -/
def colon (scan : Scan) : Except Fault Scan :=
  match scan.candidate with
  | some candidate =>
    let scan := { scan.insert candidate.position .key with candidate := none }
    let scan :=
      if scan.inFlow then scan
      else scan.openAt candidate.start.column candidate.position .blockMapping
    .ok { scan.pushMark .value with allowsKey := false }
  | none => do
    let scan ← scan.openHere .blockMapping
    return { scan.pushMark .value with allowsKey := !scan.inFlow }

/-- Reads a scalar between quotes. -/
def quotedScalar (scan : Scan) (mark : Char) : Except Fault Scan := do
  let scan ← scan.offer
  match quoted scan.size mark scan.cursor with
  | .error .ended => throw (scan.cut.getD .malformed)
  | .error (.fault found) => throw found
  | .ok (text, cursor) =>
    return { scan.push (.scalar text false) with allowsKey := false, cursor }

/-- Reads a plain scalar. -/
def plainScalar (scan : Scan) : Except Fault Scan := do
  let scan ← scan.offer
  let found := plain scan.size scan.inFlow (scan.indent + 1).toNat scan.cursor
  return { scan.push (.scalar (.whole found.text) true) with
    allowsKey := found.endsLine, cursor := found.place }

/-- Reads the token that begins with the character. -/
def token (scan : Scan) (c : Char) (rest : List Char) : Except Fault Scan :=
  if scan.cursor.atMark '-' then scan.documentMark .documentStart
  else if scan.cursor.atMark '.' then scan.documentMark .documentEnd
  else if c = '[' then scan.opening .flowSequence
  else if c = '\x7b' then scan.opening .flowMapping
  else if c = ']' then scan.closing .flowSequenceEnd
  else if c = '\x7d' then scan.closing .flowMappingEnd
  else if c = ',' then scan.comma
  else if c = '-' && atGap rest then scan.dash
  else if c = '?' && (scan.inFlow || atGap rest) then scan.question
  else if c = ':' && (scan.inFlow || atGap rest) then scan.colon
  else if c = '\'' || c = '"' then scan.quotedScalar c
  else if startsPlain scan.inFlow (c :: rest) then scan.plainScalar
  else .error .malformed

/-- Ends the scan, unless the text breaks off here. -/
def finish (scan : Scan) : Except Fault Scan :=
  match scan.cut with
  | some fault => .error fault
  | none => do
    let scan ← ((← scan.dropStale).closeTo (-1)).dropCandidate
    return scan.push .streamEnd

/-- Goes to the next token. -/
def toToken (scan : Scan) : Scan :=
  let cursor := scan.cursor.content scan.size
  let passesLine := cursor.line ≠ scan.cursor.line
  { scan with cursor, allowsKey := scan.allowsKey || (passesLine && !scan.inFlow) }

/-- Reads the next token; nothing if that was the end of the text. -/
def step (scan : Scan) : Except Fault (Scan × Bool) := do
  let scan := scan.toToken
  match scan.cursor.rest with
  | [] => return (← scan.finish, true)
  | c :: rest =>
    let scan ← (((← scan.dropStale).closeTo scan.cursor.column)).token c rest
    match scan.cursor.rest, scan.cut with
    | [], some fault => throw fault
    | _, _ => return (scan, false)

/-- The tokens that no candidate holds back, and the fault. -/
def released (scan : Scan) (fault : Fault) : List Token :=
  let held := (scan.candidate :: scan.outerCandidates).filterMap fun candidate =>
    candidate.map (·.position)
  scan.tokens.reverse.take (held.foldl min scan.count) ++ [.fault fault]

/-- The tokens from here on, behind those read before; `fuel` bounds their number. -/
def run : (fuel : Nat) → Scan → List Token
  | 0, scan => scan.released .malformed
  | fuel + 1, scan =>
    match scan.dropStale with
    | .error fault => scan.released fault
    | .ok scan =>
      match scan.step with
      | .error fault => scan.released fault
      | .ok (scan, true) => scan.tokens.reverse
      | .ok (scan, false) => run fuel scan

end Scan

/-- The tokens of a text. -/
def Token.listOf (supply : Supply) : List Token :=
  let size := supply.chars.length
  Scan.run (size + 1) ⟨size, supply.fault, ⟨supply.chars, 0, 0, 0⟩, [], 0, -1, [], none, [], true⟩

end DistrictAtlas.Yaml
