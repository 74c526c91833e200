import DistrictAtlas.Text.EastAsian.KoreanCells
import DistrictAtlas.Text.EastAsian.Lead

/-!
# Korean character sets

The standard set of Korean takes two bytes with their high bits for a character. A syllable without a
cell is written by its letters, behind a mark and each with a mark of its own. The unified set gives
these syllables the other pairs of bytes, in their order. The combining set writes every syllable by the
numbers of its letters, five bits for each.
-/

namespace DistrictAtlas.EastAsian.Korean

/-- The standard set. -/
def standard : Grid := .ofStretches 94 rows

/-- The character of two bytes in the standard set. -/
def pair? (a b : Nat) : Option Char :=
  if 0xA1 ≤ a ∧ 0xA1 ≤ b then standard.at? (a - 0xA0) (b - 0xA1) else none

/-- The first byte of every letter. -/
def letterRow : Nat := 0xA4

/-- The second byte of the sign for a letter that is not there. -/
def filler : Nat := 0xD4

/-- The letters that begin a syllable, in order. -/
def initials : List Char := "ㄱㄲㄴㄷㄸㄹㅁㅂㅃㅅㅆㅇㅈㅉㅊㅋㅌㅍㅎ".toList

/-- The letters that end a syllable, in order. -/
def finals : List Char := "ㄱㄲㄳㄴㄵㄶㄷㄹㄺㄻㄼㄽㄾㄿㅀㅁㅂㅄㅅㅆㅇㅈㅊㅋㅌㅍㅎ".toList

/-- The place of a letter in a list, given the second byte of the letter. -/
def placeOf? (letters : List Char) (b : Nat) : Option Nat :=
  (pair? letterRow b).bind letters.idxOf?

/-- The place of the end of a syllable; there may be none. -/
def final? (b : Nat) : Option Nat :=
  if b = filler then some 0 else (placeOf? finals b).map (· + 1)

/-- The syllable with these letters. -/
def syllable? (first middle last : Nat) : Option Char := do
  let first ← placeOf? initials first
  let last ← final? last
  if 0xBF ≤ middle ∧ middle ≤ 0xD3 then
    some (Char.ofNat (0xAC00 + (first * 21 + (middle - 0xBF)) * 28 + last))
  else none

/-- What a syllable that is written by its letters begins with, given the bytes behind its mark. -/
def syllableLead : List Nat → Lead
  | r :: first :: s :: middle :: t :: last :: _ =>
    match if [r, s, t].all (· = letterRow) then syllable? first middle last else none with
    | some found => .chars [found] 7
    | none => .wrong 0
  | _ => .cut

/-- What bytes begin with in the standard set. -/
def standardLead (a : Nat) (rest : List Nat) : Lead :=
  if a = letterRow ∧ rest.head? = some filler then syllableLead (rest.drop 1)
  else asciiOrPair pair? a rest

/-- The syllables without a cell, in order. -/
def otherSyllables : Array Char := standard.missing 0xAC00 0xD7A3

/-- The cell of a second byte in the rows of these syllables. -/
def cell? (b : Nat) : Option Nat :=
  if 0x41 ≤ b ∧ b ≤ 0x5A then some (b - 0x41)
  else if 0x61 ≤ b ∧ b ≤ 0x7A then some (b - 0x61 + 26)
  else if 0x81 ≤ b ∧ b ≤ 0xFE then some (b - 0x81 + 52)
  else none

/-- The syllable of two bytes that are none of the standard set: 32 rows of 178 cells, then rows of the
84 cells that the standard set leaves. -/
def other? (a b : Nat) : Option Char := do
  let cell ← cell? b
  if 0x81 ≤ a ∧ a ≤ 0xA0 then otherSyllables[(a - 0x81) * 178 + cell]?
  else if 0xA1 ≤ a ∧ cell < 84 then otherSyllables[32 * 178 + (a - 0xA1) * 84 + cell]?
  else none

/-- The character of two bytes in the standard set, the filler among them. -/
def pairOrFiller? (a b : Nat) : Option Char :=
  if a = letterRow ∧ b = filler then some (Char.ofNat 0x3164) else pair? a b

/-- The character of two bytes in the unified set. -/
def unified? (a b : Nat) : Option Char :=
  (pairOrFiller? a b).or (other? a b)

/-- The letter that five bits stand for: where the sign for no letter is, and where the runs of letters
begin, with the number of the first letter in each and the number of letters. -/
def combined? (none? : Nat) (runs : List (Nat × Nat × Nat)) (bits : Nat) : Option (Option Nat) :=
  if bits = none? then some none
  else
    (runs.find? fun (start, _, size) => start ≤ bits && bits < start + size).map
      fun (start, number, _) => some (number + (bits - start))

/-- The syllable or letter that the numbers of letters make. -/
def combination? : Option Nat → Option Nat → Option Nat → Option Char
  | none, none, none => some (Char.ofNat 0x3000)
  | some first, none, none => initials[first]?
  | none, some middle, none => some (Char.ofNat (0x314F + middle))
  | none, none, some last => finals[last - 1]?
  | some first, some middle, last =>
    some (Char.ofNat (0xAC00 + (first * 21 + middle) * 28 + last.getD 0))
  | _, _, _ => none

/-- The syllable or letter of two bytes in the combining set. -/
def combining? (a b : Nat) : Option Char := do
  let first ← combined? 1 [(2, 0, 19)] (a / 4 % 32)
  let middle ← combined? 2 [(3, 0, 5), (10, 5, 6), (18, 11, 6), (26, 17, 4)] (a % 4 * 8 + b / 32)
  let last ← combined? 1 [(2, 1, 16), (19, 17, 11)] (b % 32)
  combination? first middle last

/-- The place of a second byte in the pairs of rows that the combining set folds. -/
def foldedPlace? (b : Nat) : Option Nat :=
  if 0x31 ≤ b ∧ b ≤ 0x7E then some (b - 0x31)
  else if 0x91 ≤ b ∧ b ≤ 0xFE then some (b - 0x43)
  else none

/-- The character of two bytes in the combining set that is no syllable: rows of the standard set, folded
two by two, without the letters. -/
def foldedPair? (a b : Nat) : Option Char := do
  let place ← foldedPlace? b
  let row ←
    if 0xD9 ≤ a ∧ a ≤ 0xDE then some (2 * (a - 0xD9))
    else if 0xE0 ≤ a ∧ a ≤ 0xF9 then some (2 * (a - 0xE0) + 41)
    else none
  if a = 0xDA ∧ 0xA1 ≤ b ∧ b ≤ 0xD3 then none
  else pairOrFiller? (0xA1 + row + place / 94) (0xA1 + place % 94)

/-- The character of two bytes in the combining set. -/
def combiningPair? (a b : Nat) : Option Char :=
  if a < 0xD8 then combining? a b else foldedPair? a b

end DistrictAtlas.EastAsian.Korean
