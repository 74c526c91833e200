import DistrictAtlas.Text.Lines
import DistrictAtlas.Yaml.Fault

/-!
# The supply of a YAML text

A text comes in by pieces of its characters, and its bytes by blocks. Where a byte or a character
cannot be taken, the piece that it belongs to does not come in, and what lies before may be read all
the same: a text that is wrong at its beginning is refused for that, whatever lies far behind. The
first two pieces come in together.
-/

namespace DistrictAtlas.Yaml

/-- What of a text has come in. -/
structure Supply where
  /-- The characters that can be looked at. -/
  chars : List Char
  /-- Why nothing more comes in, unless the text ends here. -/
  fault : Option Fault := none
deriving DecidableEq, Repr

namespace Supply

/-- Number of characters of a piece. -/
def pieceSize : Nat := 4096

/-- Number of bytes of a block. -/
def blockSize : Nat := 8192

/-- Whether the character may stand in a YAML text. -/
def isAllowed (c : Char) : Bool :=
  let n := c.toNat
  n = 0x09 || n = 0x0A || n = 0x0D || (0x20 ≤ n && n ≤ 0x7E) || n = 0x85 ||
    (0xA0 ≤ n && n ≤ 0xFFFD) || 0x10000 ≤ n

/-- How many characters come in before the piece with the character number `index`. -/
def delivered (index : Nat) : Nat :=
  if index < 2 * pieceSize then 0 else index / pieceSize * pieceSize

/-- The supply of a text that ends at a fault, the piece with the character number `index` missing. A
character is looked at only together with the next one. -/
def cut (chars : List Char) (index : Nat) (fault : Fault) : Supply :=
  ⟨chars.take (delivered index - 1), some fault⟩

/-- Number of characters before the first one that may not stand in a text. -/
def firstRefused (chars : List Char) : Option Nat :=
  chars.findIdx? fun c => !isAllowed c

/-- The supply of a text. -/
def ofChars (chars : List Char) : Supply :=
  match firstRefused chars with
  | none => ⟨chars, none⟩
  | some index => cut chars index .malformed

/-- The characters that the bytes begin with, up to the first fault. -/
def leading (bytes : Bytes) : List Char :=
  (Utf8.pieces bytes).map (·.content) |>.takeWhile (·.toBool) |>.filterMap (·.toOption)

/-- The bytes of the blocks before the one that shows a fault. Bytes that end too early show it only
at their end. -/
def blocksBefore (bytes : Bytes) (fault : Utf8.Fault) : Bytes :=
  match fault.reason with
  | .invalidStart => bytes.take (fault.start / blockSize * blockSize)
  | .invalidContinuation => bytes.take ((fault.start + fault.size) / blockSize * blockSize)
  | .unexpectedEnd => bytes.take fault.start

/-- The characters that come in before the block with a fault; a carriage return at the end waits for
what follows. -/
def charsBefore (bytes : Bytes) (fault : Utf8.Fault) : List Char :=
  let chars := leading (blocksBefore bytes fault)
  let chars := if chars.getLast? = some '\r' then chars.dropLast else chars
  (Text.withLineFeeds (String.ofList chars)).toList

/-- The supply of the text that the bytes write. -/
def ofBytes (bytes : Bytes) : Supply :=
  match Utf8.decode bytes with
  | .ok text => ofChars (Text.withLineFeeds text).toList
  | .error fault =>
    let chars := charsBefore bytes fault
    let atEncoding := cut chars chars.length (.encoding fault)
    match firstRefused chars with
    | none => atEncoding
    | some index =>
      if delivered index < delivered chars.length then cut chars index .malformed else atEncoding

end Supply

end DistrictAtlas.Yaml
