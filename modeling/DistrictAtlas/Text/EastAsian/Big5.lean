import DistrictAtlas.Text.EastAsian.Big5Cells
import DistrictAtlas.Text.EastAsian.HongKongCells
import DistrictAtlas.Text.EastAsian.Lead

/-!
# Big5

A set of traditional Chinese that takes two bytes for a character, the second one with or without its
high bit, the changes that a vendor made to it, and the supplementary set of Hong Kong, which has rows in
front of its own and a few characters that are written with an accent behind them.
-/

namespace DistrictAtlas.EastAsian.Big5

/-- The set as it was defined. -/
def standard : Grid := .ofStretches 157 rows

/-- The set of the vendor. -/
def vendor : Grid := .ofStretches 157 (rows ++ vendorRows)

/-- Whether a stretch lies in that part of the set which the supplementary set of Hong Kong has
replaced. -/
def isReplaced (stretch : Stretch) : Bool :=
  stretch.row = 39 || stretch.row = 40 || stretch.row = 38 && 63 ≤ stretch.cell

/-- The set with the supplementary set of Hong Kong. -/
def hongKong : Grid := .ofStretches 157 (rows.filter (!isReplaced ·) ++ hongKongRows)

/-- The rows of the supplementary set of Hong Kong in front of the others. -/
def hongKongEarly : Grid := .ofStretches 157 hongKongEarlyRows

/-- The letters with an accent behind them, by the two bytes that write them. -/
def accented : List ((Nat × Nat) × List Char) :=
  [((0x88, 0x62), ['Ê', '\u0304']), ((0x88, 0x64), ['Ê', '\u030C']),
   ((0x88, 0xA3), ['ê', '\u0304']), ((0x88, 0xA5), ['ê', '\u030C'])]

/-- The cell in the row that a second byte writes. -/
def cell? (b : Nat) : Option Nat :=
  if 0x40 ≤ b ∧ b ≤ 0x7E then some (b - 0x40)
  else if 0xA1 ≤ b ∧ b ≤ 0xFE then some (b - 0xA1 + 63)
  else none

/-- The character of two bytes. -/
def pair? (grid : Grid) (a b : Nat) : Option Char :=
  if 0xA1 ≤ a then (cell? b).bind (grid.at? (a - 0xA0)) else none

/-- The character of two bytes with the supplementary set of Hong Kong. -/
def hongKongPair? (a b : Nat) : Option Char :=
  if 0xA1 ≤ a then pair? hongKong a b
  else if 0x80 ≤ a then (cell? b).bind (hongKongEarly.at? (a - 0x80))
  else none

/-- What bytes begin with where the supplementary set of Hong Kong is used. -/
def hongKongLead (a : Nat) (rest : List Nat) : Lead :=
  match rest.head?.bind fun b => accented.lookup (a, b) with
  | some text => .chars text 1
  | none => asciiOrPair hongKongPair? a rest

end DistrictAtlas.EastAsian.Big5
