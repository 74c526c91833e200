import DistrictAtlas.Text.Utf8

/-!
# Punycode

Texts in the bytes of ASCII. Those in front of the last hyphen stand for themselves, and those behind it
are digits that write numbers. Each number tells which character is inserted next, and where: the places
in the text and the characters from the last one on are counted through, one round of places for each
character. Digits that do not go on as they should are left out with all behind them.
-/

namespace DistrictAtlas.Punycode

/-- The value of a digit. -/
def digit? (b : UInt8) : Option Nat :=
  let n := b.toNat
  if 0x41 ≤ n ∧ n ≤ 0x5A then some (n - 0x41)
  else if 0x61 ≤ n ∧ n ≤ 0x7A then some (n - 0x61)
  else if 0x30 ≤ n ∧ n ≤ 0x39 then some (n - 0x30 + 26)
  else none

/-- The value from which on the digit of that index has further digits behind it. -/
def threshold (bias index : Nat) : Nat := max 1 (min 26 (36 * (index + 1) - bias))

/-- The number that digits write from the one of that index and weight on, added to `n`, and the bytes
behind it. -/
def number? (bias index weight n : Nat) : Bytes → Option (Nat × Bytes)
  | [] => none
  | b :: rest =>
    match digit? b with
    | none => none
    | some digit =>
      let limit := threshold bias index
      if digit < limit then some (n + digit * weight, rest)
      else number? bias (index + 1) (weight * (36 - limit)) (n + digit * weight) rest

/-- A number takes at least one byte. -/
theorem length_of_number? {bias index weight n : Nat} {bytes : Bytes} {found : Nat × Bytes}
    (h : number? bias index weight n bytes = some found) : found.2.length < bytes.length := by
  induction bytes generalizing index weight n with
  | nil => simp [number?] at h
  | cons b rest ih =>
    unfold number? at h
    split at h
    · cases h
    · dsimp only at h
      split at h
      · cases h; simp
      · have := ih h
        simp only [List.length_cons]
        omega

/-- A bias that rises with the size of a number, from the one given. -/
def adapted (bias size : Nat) : Nat :=
  if 455 < size then adapted (bias + 36) (size / 35) else bias + 36 * size / (size + 38)
termination_by size
decreasing_by omega

/-- A text into which characters are inserted. -/
structure Growth where
  /-- The characters so far. -/
  text : List Char
  /-- The code point of the last character inserted. -/
  code : Nat := 0x80
  /-- The place behind the last character inserted. -/
  place : Nat := 0
  /-- The bias of the digits to come. -/
  bias : Nat := 72
  /-- Whether no character has been inserted. -/
  isFresh : Bool := true

namespace Growth

/-- The question mark, which stands for characters that are out of range. -/
def substitute : Nat := 0x3F

/-- Inserts the character that a number tells of. -/
def insert (growth : Growth) (n : Nat) : Growth :=
  let places := growth.text.length + 1
  let reached := growth.code + (growth.place + n) / places
  let code := if 0x10FFFF < reached then substitute else reached
  let place := (growth.place + n) % places
  let c := if code.isValidChar then Char.ofNat code else Utf8.replacement
  let part := if growth.isFresh then n / 700 else n / 2
  { text := growth.text.take place ++ c :: growth.text.drop place
    code, place := place + 1, bias := adapted 0 (part + part / places), isFresh := false }

/-- The text after all insertions that the bytes tell of. -/
def finish (growth : Growth) : Bytes → List Char
  | [] => growth.text
  | b :: rest =>
    match _h : number? growth.bias 0 1 0 (b :: rest) with
    | none => growth.text
    | some (n, others) => finish (growth.insert n) others
termination_by bytes => bytes.length
decreasing_by exact length_of_number? _h

end Growth

/-- The bytes behind the last hyphen, or all of them if there is none. -/
def digits (bytes : Bytes) : Bytes := (bytes.reverse.takeWhile (· ≠ 0x2D)).reverse

/-- The bytes in front of the last hyphen. -/
def front (bytes : Bytes) : Bytes := ((bytes.reverse.dropWhile (· ≠ 0x2D)).drop 1).reverse

/-- The text that bytes write. -/
def read (bytes : Bytes) : String :=
  let text := (front bytes).map fun b => if b < 0x80 then Char.ofNat b.toNat else Utf8.replacement
  String.ofList (Growth.finish { text } (digits bytes))

/-- The first byte among the digits that is not one of ASCII, and its index among them. -/
def stray? (bytes : Bytes) : Option (UInt8 × Nat) :=
  (digits bytes).zipIdx.find? fun entry => 0x80 ≤ entry.1

end DistrictAtlas.Punycode
