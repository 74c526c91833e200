import DistrictAtlas.Text.EastAsian.Lead

/-!
# Escapes for characters

Texts in bytes that write the first 256 characters by themselves and any other character by its number
behind a backslash: with numeric escapes only, or with escapes of all kinds. A broken escape is read as
the replacement character. An escape by name is one of them, since no names are known.
-/

namespace DistrictAtlas.Escaped

open EastAsian (Lead)

/-- The value of a hexadecimal digit. -/
def hexValue? (b : Nat) : Option Nat :=
  if 0x30 ≤ b ∧ b ≤ 0x39 then some (b - 0x30)
  else if 0x41 ≤ b ∧ b ≤ 0x46 then some (b - 0x37)
  else if 0x61 ≤ b ∧ b ≤ 0x66 then some (b - 0x57)
  else none

/-- Whether the byte is an octal digit. -/
def isOctal (b : Nat) : Bool := 0x30 ≤ b && b ≤ 0x37

/-- What an escape with `count` hexadecimal digits begins with, given the bytes behind its letter. -/
def numeric (count : Nat) (rest : List Nat) : Lead :=
  let digits := ((rest.take count).map hexValue?).takeWhile (·.isSome) |>.filterMap id
  let n := digits.foldl (fun n digit => n * 16 + digit) 0
  if digits.length < count ∨ 0x10FFFF < n then .wrong (digits.length + 1)
  else .chars [if n.isValidChar then Char.ofNat n else Utf8.replacement] (count + 1)

/-- What an octal escape begins with, given the bytes behind the backslash. -/
def octal (rest : List Nat) : Lead :=
  let digits := (rest.take 3).takeWhile isOctal
  .chars [Char.ofNat (digits.foldl (fun n digit => n * 8 + (digit - 0x30)) 0)] digits.length

/-- What an escape by name begins with, given the bytes behind its letter. -/
def byName : List Nat → Lead
  | 0x7B :: rest =>
    let name := rest.takeWhile (· ≠ 0x7D)
    if name.length = rest.length ∨ name.isEmpty then .wrong (name.length + 2)
    else .wrong (name.length + 3)
  | _ => .wrong 1

/-- The character of an escape with one letter or sign, given the byte of it. -/
def short? (b : Nat) : Option Nat :=
  [(0x5C, 0x5C), (0x27, 0x27), (0x22, 0x22), (0x61, 0x07), (0x62, 0x08), (0x74, 0x09), (0x6E, 0x0A),
    (0x76, 0x0B), (0x66, 0x0C), (0x72, 0x0D)].lookup b

/-- What an escape by number begins with, given the bytes behind the backslash. -/
def byNumber? : List Nat → Option Lead
  | 0x75 :: rest => some (numeric 4 rest)
  | 0x55 :: rest => some (numeric 8 rest)
  | _ => none

/-- What bytes with numeric escapes begin with. -/
def plainLead (a : Nat) (rest : List Nat) : Lead :=
  if a ≠ 0x5C then .chars [Char.ofNat a] 0
  else
    match byNumber? rest, rest with
    | some lead, _ => lead
    | none, [] => .chars ['\\'] 0
    | none, b :: _ => .chars ['\\', Char.ofNat b] 1

/-- What bytes with escapes of all kinds begin with. -/
def fullLead (a : Nat) (rest : List Nat) : Lead :=
  if a ≠ 0x5C then .chars [Char.ofNat a] 0
  else
    match byNumber? rest, rest with
    | some lead, _ => lead
    | none, [] => .cut
    | none, 0x0A :: _ => .chars [] 1
    | none, 0x78 :: rest => numeric 2 rest
    | none, 0x4E :: rest => byName rest
    | none, b :: _ =>
      match short? b with
      | some n => .chars [Char.ofNat n] 1
      | none => if isOctal b then octal rest else .chars ['\\', Char.ofNat b] 1

end DistrictAtlas.Escaped
