import DistrictAtlas.Text.EastAsian.Japanese
import DistrictAtlas.Text.EastAsian.JapaneseFirstPlane
import DistrictAtlas.Text.EastAsian.JapaneseSecondPlane

/-!
# Extended Japanese character sets

The extended set of Japanese has two planes, the first of which holds the standard set. Some of its cells
stand for two characters. There are two editions, and two ways to write each of them: with high bits,
where the supplementary set may be used beside the second plane, and with folded rows, where the rows of
the second plane come behind those of the first.
-/

namespace DistrictAtlas.EastAsian.Japanese

/-- An edition of the extended set. -/
inductive Edition where
  /-- The one with fewer characters. -/
  | earlier
  /-- The one that added some variants. -/
  | later
deriving DecidableEq, Repr

/-- The first plane, but for the cells that stand for two characters. -/
def firstPlane : Grid := .ofStretches 94 (rows ++ firstPlaneRows)

/-- The second plane. -/
def secondPlane : Grid := .ofStretches 94 secondPlaneRows

/-- The second plane and the supplementary set, which have no cell in common. -/
def eitherPlane : Grid := .ofStretches 94 (supplementRows ++ secondPlaneRows)

/-- The cells of the first plane that the later edition added. -/
def laterCells : List (Nat × Nat) :=
  [(14, 0), (15, 93), (47, 51), (47, 93), (84, 6), (94, 89), (94, 90), (94, 91), (94, 92), (94, 93)]

/-- The cell in which ways to write with escape sequences or folded rows have the narrow tilde. -/
def narrowTilde : (Nat × Nat) × Char := ((2, 17), '~')

/-- The cell in which the way to write with folded rows has the narrow backslash. -/
def narrowBackslash : (Nat × Nat) × Char := ((1, 31), '\\')

/-- The characters in a cell of the first plane, of which some may be narrow. -/
def firstPlaneText? (edition : Edition) (narrow : List ((Nat × Nat) × Char)) (row cell : Nat) :
    Option (List Char) :=
  if edition = .earlier ∧ laterCells.contains (row, cell) then none
  else
    match firstPlanePairs.lookup (row, cell) with
    | some text => some text.toList
    | none => ((narrow.lookup (row, cell)).or (firstPlane.at? row cell)).map ([·])

/-- What two bytes for a cell of the first plane begin with. -/
def firstPlaneLead (edition : Edition) (narrow : List ((Nat × Nat) × Char)) (row cell : Nat) : Lead :=
  match firstPlaneText? edition narrow row cell with
  | some text => .chars text 1
  | none => .wrong (if laterCells.contains (row, cell) then 1 else 0)

/-- The character in a cell of the grid with the second plane, of which an edition has one variant. -/
def secondPlaneChar? (edition : Edition) (grid : Grid) (row cell : Nat) : Option Char :=
  if edition = .earlier ∧ row = 93 ∧ cell = 26 then some '鬝' else grid.at? row cell

/-- The row and the cell of two bytes with their high bits. -/
def highCell? (a b : Nat) : Option (Nat × Nat) :=
  if 0xA1 ≤ a ∧ 0xA1 ≤ b then some (a - 0xA0, b - 0xA1) else none

/-- What bytes begin with where characters take two or three bytes with their high bits. -/
def extendedHighLead (edition : Edition) (a : Nat) (rest : List Nat) : Lead :=
  if a < 0x80 then .chars [Char.ofNat a] 0
  else
    match a, rest with
    | 0x8E, rest => pairLead (fun _ b => narrow? b) a rest
    | 0x8F, b :: c :: _ =>
      match (highCell? b c).bind fun (row, cell) => secondPlaneChar? edition eitherPlane row cell with
      | some found => .chars [found] 2
      | none => .wrong 0
    | 0x8F, _ => .cut
    | _, [] => .cut
    | _, b :: _ =>
      match highCell? a b with
      | some (row, cell) => firstPlaneLead edition [] row cell
      | none => .wrong 0

/-- The row of the second plane that comes at that place behind the rows of the first. -/
def secondPlaneRow (place : Nat) : Nat :=
  [1, 8, 3, 4, 5, 12, 13, 14, 15].getD place (place + 69)

/-- What bytes begin with where rows are folded. -/
def extendedFoldedLead (edition : Edition) (a : Nat) (rest : List Nat) : Lead :=
  if a < 0x80 then .chars [if a = 0x5C then '¥' else if a = 0x7E then '‾' else Char.ofNat a] 0
  else
    match narrow? a, foldedRows? a, rest with
    | some c, _, _ => .chars [c] 0
    | none, none, _ => .wrong 0
    | none, some _, [] => .cut
    | none, some rows, b :: _ =>
      match foldedCell? b with
      | none => .wrong 0
      | some cell =>
        let row := 2 * rows + cell / 94 + 1
        if row ≤ 94 then firstPlaneLead edition [narrowTilde, narrowBackslash] row (cell % 94)
        else
          match secondPlaneChar? edition secondPlane (secondPlaneRow (row - 95)) (cell % 94) with
          | some found => .chars [found] 1
          | none => .wrong 0

end DistrictAtlas.EastAsian.Japanese
