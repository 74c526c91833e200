import DistrictAtlas.Text.EastAsian.JapaneseCells
import DistrictAtlas.Text.EastAsian.JapaneseSupplement
import DistrictAtlas.Text.EastAsian.Lead

/-!
# Japanese character sets

The standard set of Japanese and its supplement in three ways to write them. In the first a character
takes two bytes with their high bits, or three in the supplement, and narrow kana have a mark before
them. In the second the rows are folded two by two into a smaller number of first bytes, so that narrow
kana need one byte only. The third is the second with the changes of a vendor.
-/

namespace DistrictAtlas.EastAsian.Japanese

/-- The standard set. -/
def standard : Grid := .ofStretches 94 rows

/-- The standard set with the changes of the vendor. -/
def vendor : Grid := .ofStretches 94 (rows ++ vendorRows)

/-- The supplementary set. -/
def supplement : Grid := .ofStretches 94 supplementRows

/-- The character of two bytes with their high bits in a grid. -/
def pair? (grid : Grid) (a b : Nat) : Option Char :=
  if 0xA1 ≤ a ∧ 0xA1 ≤ b then grid.at? (a - 0xA0) (b - 0xA1) else none

/-- The narrow kana that a byte writes. -/
def narrow? (b : Nat) : Option Char :=
  if 0xA1 ≤ b ∧ b ≤ 0xDF then some (Char.ofNat (0xFEC0 + b)) else none

/-- What bytes begin with where characters take two or three bytes with their high bits. -/
def highLead (a : Nat) (rest : List Nat) : Lead :=
  if a < 0x80 then .chars [Char.ofNat a] 0
  else if a = 0x8E then pairLead (fun _ b => narrow? b) a rest
  else if a = 0x8F then
    match rest with
    | b :: c :: _ =>
      match pair? supplement b c with
      | some found => .chars [found] 2
      | none => .wrong 0
    | _ => .cut
  else pairLead (pair? standard) a rest

/-- The pair of rows that a first byte of folded rows leads to. -/
def foldedRows? (a : Nat) : Option Nat :=
  if 0x81 ≤ a ∧ a ≤ 0x9F then some (a - 0x81)
  else if 0xE0 ≤ a ∧ a ≤ 0xFC then some (a - 0xC1)
  else none

/-- The cell in a pair of rows that a second byte writes. -/
def foldedCell? (b : Nat) : Option Nat :=
  if 0x40 ≤ b ∧ b ≤ 0x7E then some (b - 0x40)
  else if 0x80 ≤ b ∧ b ≤ 0xFC then some (b - 0x41)
  else none

/-- The character of two bytes with folded rows in a grid. -/
def folded? (grid : Grid) (a b : Nat) : Option Char := do
  let rows ← foldedRows? a
  let cell ← foldedCell? b
  grid.at? (2 * rows + cell / 94 + 1) (cell % 94)

/-- What bytes begin with where rows are folded. -/
def foldedLead (a : Nat) (rest : List Nat) : Lead :=
  if a < 0x80 then .chars [Char.ofNat a] 0
  else
    match narrow? a with
    | some c => .chars [c] 0
    | none => if (foldedRows? a).isSome then pairLead (folded? standard) a rest else .wrong 0

/-- The character of two bytes in the set of the vendor, which leaves ten pairs of rows to the users. -/
def vendorPair? (a b : Nat) : Option Char :=
  if 0xF0 ≤ a ∧ a ≤ 0xF9 then
    (foldedCell? b).map fun cell => Char.ofNat (0xE000 + (a - 0xF0) * 188 + cell)
  else folded? vendor a b

/-- What bytes begin with in the set of the vendor. -/
def vendorLead (a : Nat) (rest : List Nat) : Lead :=
  if a ≤ 0x80 then .chars [Char.ofNat a] 0
  else if a = 0xA0 then .chars [Char.ofNat 0xF8F0] 0
  else if 0xFD ≤ a then .chars [Char.ofNat (0xF8F1 + (a - 0xFD))] 0
  else
    match narrow? a with
    | some c => .chars [c] 0
    | none => pairLead vendorPair? a rest

end DistrictAtlas.EastAsian.Japanese
