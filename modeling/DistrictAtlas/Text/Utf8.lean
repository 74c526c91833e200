import DistrictAtlas.Text.Quoted

/-!
# UTF-8

Texts as bytes and back. Decoding cuts the bytes into pieces, each of which is one character or one
fault; a fault covers the longest beginning of a character that stands there, and at least one byte.
Strict decoding stops at the first fault and reports where it lies; lenient decoding puts the
replacement character in its place.
-/

namespace DistrictAtlas

/-- A sequence of bytes. -/
abbrev Bytes := List UInt8

namespace Utf8

/-- The bytes of one character. -/
def encodeChar (c : Char) : Bytes :=
  let n := c.toNat
  if n < 0x80 then [UInt8.ofNat n]
  else if n < 0x800 then [UInt8.ofNat (0xC0 + n / 0x40), UInt8.ofNat (0x80 + n % 0x40)]
  else if n < 0x10000 then
    [UInt8.ofNat (0xE0 + n / 0x1000), UInt8.ofNat (0x80 + n / 0x40 % 0x40),
     UInt8.ofNat (0x80 + n % 0x40)]
  else
    [UInt8.ofNat (0xF0 + n / 0x40000), UInt8.ofNat (0x80 + n / 0x1000 % 0x40),
     UInt8.ofNat (0x80 + n / 0x40 % 0x40), UInt8.ofNat (0x80 + n % 0x40)]

/-- The bytes of a text. -/
def encode (s : String) : Bytes :=
  s.toList.flatMap encodeChar

/-- Why bytes are not a character. -/
inductive Reason where
  /-- No character starts with this byte. -/
  | invalidStart
  /-- The byte that follows does not go on with the character. -/
  | invalidContinuation
  /-- The bytes end inside a character. -/
  | unexpectedEnd
deriving DecidableEq, Repr

/-- The wording of a reason. -/
def Reason.message : Reason → String
  | .invalidStart => "invalid start byte"
  | .invalidContinuation => "invalid continuation byte"
  | .unexpectedEnd => "unexpected end of data"

/-- One character or one fault, and the number of bytes it covers. -/
structure Piece where
  /-- Number of bytes covered. -/
  size : Nat
  /-- What the bytes are. -/
  content : Except Reason Char
deriving Repr

/-- A fault that covers `size` bytes. -/
def Piece.fault (size : Nat) (reason : Reason) : Piece := ⟨size, .error reason⟩

/-- A character of `size` bytes. -/
def Piece.char (size code : Nat) : Piece := ⟨size, .ok (Char.ofNat code)⟩

/-- Whether the byte can stand inside a character. -/
def isContinuation (b : UInt8) : Bool := 0x80 ≤ b.toNat && b.toNat ≤ 0xBF

/-- Whether the second byte of a character can follow its first one: beside being a continuation it
must not make the form longer than needed, nor a surrogate, nor a code point beyond the last. -/
def isSecond (lead second : UInt8) : Bool :=
  isContinuation second &&
    (if lead = 0xE0 then 0xA0 ≤ second.toNat
     else if lead = 0xED then second.toNat ≤ 0x9F
     else if lead = 0xF0 then 0x90 ≤ second.toNat
     else if lead = 0xF4 then second.toNat ≤ 0x8F
     else true)

/-- The low six bits of a byte. -/
def bits (b : UInt8) : Nat := b.toNat % 0x40

/-- The piece that begins with the byte `lead`. -/
def piece (lead : UInt8) (rest : Bytes) : Piece :=
  let n := lead.toNat
  if n < 0x80 then .char 1 n
  else if n < 0xC2 ∨ 0xF5 ≤ n then .fault 1 .invalidStart
  else match rest with
    | [] => .fault 1 .unexpectedEnd
    | b₁ :: rest =>
      if !isSecond lead b₁ then .fault 1 .invalidContinuation
      else if n < 0xE0 then .char 2 (n % 0x20 * 0x40 + bits b₁)
      else match rest with
        | [] => .fault 2 .unexpectedEnd
        | b₂ :: rest =>
          if !isContinuation b₂ then .fault 2 .invalidContinuation
          else if n < 0xF0 then .char 3 (n % 0x10 * 0x1000 + bits b₁ * 0x40 + bits b₂)
          else match rest with
            | [] => .fault 3 .unexpectedEnd
            | b₃ :: _ =>
              if !isContinuation b₃ then .fault 3 .invalidContinuation
              else .char 4 (n % 0x08 * 0x40000 + bits b₁ * 0x1000 + bits b₂ * 0x40 + bits b₃)

/-- The pieces of the bytes, behind those in `done`, which is kept in reverse. -/
def piecesAfter (done : List Piece) : Bytes → List Piece
  | [] => done.reverse
  | lead :: rest =>
    let next := piece lead rest
    piecesAfter (next :: done) (rest.drop (next.size - 1))
termination_by bytes => bytes.length
decreasing_by simp only [List.length_drop, List.length_cons]; omega

/-- The bytes cut into pieces. -/
def pieces (bytes : Bytes) : List Piece := piecesAfter [] bytes

/-- Where strict decoding stopped. -/
structure Fault where
  /-- Position of the first byte that is not part of a character. -/
  start : Nat
  /-- Number of bytes that the fault covers. -/
  size : Nat
  /-- The first byte of the fault. -/
  byte : UInt8
  /-- What is wrong with it. -/
  reason : Reason
deriving DecidableEq, Repr

/-- The wording of a fault. -/
def Fault.message (fault : Fault) : String :=
  let place :=
    if fault.size = 1 then
      s!"byte 0x{String.ofList (Text.hexDigits 2 fault.byte.toNat)} in position {fault.start}"
    else s!"bytes in position {fault.start}-{fault.start + fault.size - 1}"
  s!"'utf-8' codec can't decode {place}: {fault.reason.message}"

/-- Reads off the characters of the pieces, given the bytes that they were cut from, the position
that was reached and the characters before it in reverse. -/
def charsOf (bytes : Bytes) (position : Nat) (done : List Char) : List Piece → Except Fault String
  | [] => .ok (String.ofList done.reverse)
  | ⟨size, .ok c⟩ :: rest => charsOf (bytes.drop size) (position + size) (c :: done) rest
  | ⟨size, .error reason⟩ :: _ => .error ⟨position, size, bytes.headD 0, reason⟩

/-- The text that the bytes encode, or the first fault. -/
def decode (bytes : Bytes) : Except Fault String :=
  charsOf bytes 0 [] (pieces bytes)

/-- The character put in place of bytes that are no character. -/
def replacement : Char := Char.ofNat 0xFFFD

/-- The text of the bytes, with the replacement character for each fault. -/
def decodeLenient (bytes : Bytes) : String :=
  String.ofList ((pieces bytes).map fun piece =>
    match piece.content with
    | .ok c => c
    | .error _ => replacement)

/-- The empty text takes no bytes. -/
theorem encode_empty : encode "" = [] := rfl

end Utf8

end DistrictAtlas
