import DistrictAtlas.Text.Utf16

/-!
# UTF-7

Texts in the bytes of ASCII. A plus sign opens a section in which digits of base 64 write the units of
UTF-16, and any other byte closes it; a minus sign that does so stands for nothing else. What stands for
no character is read as the replacement character.
-/

namespace DistrictAtlas.Utf7

/-- The value of a digit of base 64. -/
def digit? (b : UInt8) : Option Nat :=
  let n := b.toNat
  if 0x41 ≤ n ∧ n ≤ 0x5A then some (n - 0x41)
  else if 0x61 ≤ n ∧ n ≤ 0x7A then some (n - 0x61 + 26)
  else if 0x30 ≤ n ∧ n ≤ 0x39 then some (n - 0x30 + 52)
  else if n = 0x2B then some 62
  else if n = 0x2F then some 63
  else none

/-- What is known inside a section. -/
structure Section where
  /-- Number of bits that wait for others to make a unit. -/
  width : Nat := 0
  /-- The number that these bits write. -/
  bits : Nat := 0
  /-- The first half of a pair that waits for the second. -/
  half : Option Nat := none

namespace Section

/-- Takes a unit and adds the characters that are complete to those in `done`, which is kept in
reverse. -/
def unit (state : Section) (done : List Char) (n : Nat) : Section × List Char :=
  match state.half with
  | some first =>
    if Utf16.isSecondHalf n then ({ state with half := none }, Utf16.pairChar first n :: done)
    else if Utf16.isFirstHalf n then ({ state with half := some n }, Utf8.replacement :: done)
    else ({ state with half := none }, Char.ofNat n :: Utf8.replacement :: done)
  | none =>
    if Utf16.isFirstHalf n then ({ state with half := some n }, done)
    else if Utf16.isSecondHalf n then (state, Utf8.replacement :: done)
    else (state, Char.ofNat n :: done)

/-- Takes a digit. -/
def digit (state : Section) (done : List Char) (value : Nat) : Section × List Char :=
  let width := state.width + 6
  let bits := state.bits * 64 + value
  if width < 16 then ({ state with width, bits }, done)
  else
    unit { state with width := width - 16, bits := bits % Nat.pow 2 (width - 16) } done
      (bits / Nat.pow 2 (width - 16))

/-- Whether bits are left that belong to a unit. -/
def isTorn (state : Section) : Bool := 6 ≤ state.width || state.bits ≠ 0

end Section

/-- Whether the byte is a character by itself. -/
def isDirect (b : UInt8) : Bool := b.toNat < 0x80 && b.toNat ≠ 0x2B

/-- The characters of the bytes, behind those in `done`, which is kept in reverse; in a section, with
what is known of it. -/
def charsAfter (state : Option Section) (done : List Char) : Bytes → List Char
  | [] =>
    match state with
    | none => done.reverse
    | some state =>
      (if state.isTorn || state.half.isSome then Utf8.replacement :: done else done).reverse
  | b :: rest =>
    match state with
    | none =>
      if b = 0x2B then
        match rest with
        | [] => charsAfter (some {}) done []
        | c :: more =>
          if c = 0x2D then charsAfter none ('+' :: done) more
          else if (digit? c).isNone then charsAfter none (Utf8.replacement :: done) more
          else charsAfter (some {}) done (c :: more)
      else if isDirect b then charsAfter none (Char.ofNat b.toNat :: done) rest
      else charsAfter none (Utf8.replacement :: done) rest
    | some state =>
      match digit? b with
      | some value =>
        let (state, done) := state.digit done value
        charsAfter (some state) done rest
      | none =>
        if state.isTorn then charsAfter none (Utf8.replacement :: done) rest
        else
          let done :=
            if state.half.isSome && isDirect b then Utf8.replacement :: done else done
          if b = 0x2D then charsAfter none done rest
          else if isDirect b then charsAfter none (Char.ofNat b.toNat :: done) rest
          else charsAfter none (Utf8.replacement :: done) rest

/-- The text of the bytes. -/
def read (bytes : Bytes) : String := String.ofList (charsAfter none [] bytes)

end DistrictAtlas.Utf7
