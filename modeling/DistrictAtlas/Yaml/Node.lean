import DistrictAtlas.Yaml.Token

/-!
# Trees of YAML

The tree that the tokens of a document make: scalars, sequences and mappings, whose keys are trees too.
What may be left out, the value behind a colon or the item behind a dash, is an empty scalar. There is
one document at most.
-/

namespace DistrictAtlas.Yaml

/-- A tree. -/
inductive Node where
  /-- A scalar, without quotes if it is plain. -/
  | scalar (text : Wording) (isPlain : Bool)
  /-- A sequence. -/
  | sequence (items : List Node)
  /-- A mapping, its entries in order. -/
  | mapping (entries : List (Node × Node))
deriving Repr

/-- What was made of the tokens, and the tokens behind it. -/
abbrev Made (α : Type) := Except Fault (α × List Token)

namespace Node

/-- What stands where nothing does. -/
def absent : Node := .scalar (.whole "") true

/-- Why the tokens cannot go on like this. -/
def refusal : List Token → Fault
  | .fault fault :: _ => fault
  | _ => .malformed

/-- Where a tree stands. -/
inductive Place where
  /-- Between brackets. -/
  | flow
  /-- Where lists and mappings may go by lines. -/
  | block
  /-- Behind a key, where a list with dashes need not be indented. -/
  | loose
deriving DecidableEq, Repr

/-- Whether the next token is one of these. -/
def isNext (ends : List Token) : List Token → Bool
  | [] => false
  | token :: _ => ends.contains token

mutual

/-- Makes a tree of the tokens. Every call spends one unit of `fuel`. -/
def make : (fuel : Nat) → Place → List Token → Made Node
  | 0, _, tokens => .error (refusal tokens)
  | fuel + 1, place, tokens =>
    match tokens, place with
    | .scalar text isPlain :: rest, _ => .ok (.scalar text isPlain, rest)
    | .flowSequence :: rest, _ => makeFlowItems fuel true [] rest
    | .flowMapping :: rest, _ => makeFlowEntries fuel true [] rest
    | .entry :: _, .loose => makeLooseItems fuel [] tokens
    | .blockSequence :: _, .flow => .error .malformed
    | .blockSequence :: rest, _ => makeItems fuel [] rest
    | .blockMapping :: _, .flow => .error .malformed
    | .blockMapping :: rest, _ => makeEntries fuel [] rest
    | _, _ => .error (refusal tokens)

/-- Makes a tree, or the absent one where one of the tokens `ends` is next. -/
def makeUnless : (fuel : Nat) → (ends : List Token) → Place → List Token → Made Node
  | 0, _, _, tokens => .error (refusal tokens)
  | fuel + 1, ends, place, tokens =>
    if isNext ends tokens then .ok (absent, tokens) else make fuel place tokens

/-- Makes the value of a key, if there is one. -/
def makeValue : (fuel : Nat) → (ends : List Token) → Place → List Token → Made Node
  | 0, _, _, tokens => .error (refusal tokens)
  | fuel + 1, ends, place, tokens =>
    match tokens with
    | .value :: rest => makeUnless fuel ends place rest
    | _ => .ok (absent, tokens)

/-- Makes a key and its value. -/
def makeEntry : (fuel : Nat) → (ends : List Token) → Place → List Token → Made (Node × Node)
  | 0, _, _, tokens => .error (refusal tokens)
  | fuel + 1, ends, place, tokens =>
    match makeUnless fuel (.value :: ends) place tokens with
    | .error fault => .error fault
    | .ok (key, rest) =>
      match makeValue fuel ends place rest with
      | .error fault => .error fault
      | .ok (value, rest) => .ok ((key, value), rest)

/-- Makes the rest of a list with dashes. -/
def makeItems : (fuel : Nat) → List Node → List Token → Made Node
  | 0, _, tokens => .error (refusal tokens)
  | fuel + 1, done, tokens =>
    match tokens with
    | .entry :: rest =>
      match makeUnless fuel [.entry, .blockEnd] .block rest with
      | .error fault => .error fault
      | .ok (item, rest) => makeItems fuel (item :: done) rest
    | .blockEnd :: rest => .ok (.sequence done.reverse, rest)
    | _ => .error (refusal tokens)

/-- Makes the rest of a list with dashes that is not indented; it ends where no dash comes. -/
def makeLooseItems : (fuel : Nat) → List Node → List Token → Made Node
  | 0, _, tokens => .error (refusal tokens)
  | fuel + 1, done, tokens =>
    match tokens with
    | .entry :: rest =>
      match makeUnless fuel [.entry, .key, .value, .blockEnd] .block rest with
      | .error fault => .error fault
      | .ok (item, rest) => makeLooseItems fuel (item :: done) rest
    | _ => .ok (.sequence done.reverse, tokens)

/-- Makes the rest of a mapping that goes by lines. -/
def makeEntries : (fuel : Nat) → List (Node × Node) → List Token → Made Node
  | 0, _, tokens => .error (refusal tokens)
  | fuel + 1, done, tokens =>
    match tokens with
    | .key :: rest =>
      match makeEntry fuel [.key, .value, .blockEnd] .loose rest with
      | .error fault => .error fault
      | .ok (entry, rest) => makeEntries fuel (entry :: done) rest
    | .blockEnd :: rest => .ok (.mapping done.reverse, rest)
    | _ => .error (refusal tokens)

/-- Makes the rest of a list in brackets; `first` says that no comma is needed. An item with a colon is
a mapping of one entry. -/
def makeFlowItems : (fuel : Nat) → (first : Bool) → List Node → List Token → Made Node
  | 0, _, _, tokens => .error (refusal tokens)
  | fuel + 1, first, done, tokens =>
    match tokens, first with
    | .flowSequenceEnd :: rest, _ => .ok (.sequence done.reverse, rest)
    | .separator :: rest, false => makeFlowItems fuel true done rest
    | .key :: rest, true =>
      match makeEntry fuel [.separator, .flowSequenceEnd] .flow rest with
      | .error fault => .error fault
      | .ok (entry, rest) => makeFlowItems fuel false (.mapping [entry] :: done) rest
    | _, true =>
      match make fuel .flow tokens with
      | .error fault => .error fault
      | .ok (item, rest) => makeFlowItems fuel false (item :: done) rest
    | _, false => .error (refusal tokens)

/-- Makes the rest of a mapping in braces; `first` says that no comma is needed. A key without a colon
has no value. -/
def makeFlowEntries : (fuel : Nat) → (first : Bool) → List (Node × Node) → List Token → Made Node
  | 0, _, _, tokens => .error (refusal tokens)
  | fuel + 1, first, done, tokens =>
    match tokens, first with
    | .flowMappingEnd :: rest, _ => .ok (.mapping done.reverse, rest)
    | .separator :: rest, false => makeFlowEntries fuel true done rest
    | .key :: rest, true =>
      match makeEntry fuel [.separator, .flowMappingEnd] .flow rest with
      | .error fault => .error fault
      | .ok (entry, rest) => makeFlowEntries fuel false (entry :: done) rest
    | _, true =>
      match make fuel .flow tokens with
      | .error fault => .error fault
      | .ok (key, rest) => makeFlowEntries fuel false ((key, absent) :: done) rest
    | _, false => .error (refusal tokens)

end

/-- Checks that no other document comes; marks for the end of this one may be repeated. -/
def checkEnd (tokens : List Token) : Except Fault Unit :=
  match tokens.dropWhile (· = .documentEnd) with
  | .streamEnd :: _ => .ok ()
  | rest => .error (refusal rest)

/-- The tree of the document that the tokens make, if there is one. -/
def ofTokens (tokens : List Token) : Except Fault (Option Node) := do
  let fuel := 4 * tokens.length + 8
  match tokens with
  | .streamEnd :: _ => return none
  | .documentStart :: rest =>
    let (node, rest) ← makeUnless fuel [.documentStart, .documentEnd, .streamEnd] .block rest
    checkEnd rest
    return some node
  | _ =>
    let (node, rest) ← make fuel .block tokens
    checkEnd rest
    return some node

end Node

end DistrictAtlas.Yaml
