/-!
# Grids of characters

The character sets of East Asia number their characters by row and cell. A grid is made of stretches of
neighbouring cells, of which later ones take the place of earlier ones.
-/

namespace DistrictAtlas.EastAsian

/-- Characters in neighbouring cells of a row. -/
structure Stretch where
  /-- The row. -/
  row : Nat
  /-- The first cell. -/
  cell : Nat
  /-- The characters from there on. -/
  chars : String
deriving DecidableEq, Repr

/-- Characters by row and cell. -/
structure Grid where
  /-- The number of cells of a row. -/
  width : Nat
  /-- The cells, row by row. -/
  cells : Array (Option Char)

namespace Grid

/-- The number of rows that there is room for. -/
def height : Nat := 128

/-- A grid without characters. -/
def blank (width : Nat) : Grid := ⟨width, Array.replicate (height * width) none⟩

/-- Puts a character into a cell. -/
def put (grid : Grid) (row cell : Nat) (c : Char) : Grid :=
  { grid with cells := grid.cells.setIfInBounds (row * grid.width + cell) (some c) }

/-- Puts the characters of a stretch into their cells. -/
def add (grid : Grid) (stretch : Stretch) : Grid :=
  let step := fun (state : Grid × Nat) c => (state.1.put stretch.row state.2 c, state.2 + 1)
  (stretch.chars.toList.foldl step (grid, stretch.cell)).1

/-- The grid of these stretches. -/
def ofStretches (width : Nat) (stretches : List Stretch) : Grid :=
  stretches.foldl add (blank width)

/-- The character in a cell. -/
def at? (grid : Grid) (row cell : Nat) : Option Char :=
  if cell < grid.width then grid.cells.getD (row * grid.width + cell) none else none

/-- For each code point from `first` on, whether its character has a cell; there are `size` of them. -/
def marks (grid : Grid) (first size : Nat) : Array Bool :=
  grid.cells.foldl
    (fun marks cell =>
      match cell with
      | some c => if first ≤ c.toNat then marks.setIfInBounds (c.toNat - first) true else marks
      | none => marks)
    (Array.replicate size false)

/-- The characters of a block that have no cell, in order. -/
def missing (grid : Grid) (first last : Nat) : Array Char :=
  let size := last + 1 - first
  let marks := grid.marks first size
  (Array.range size).filterMap fun index =>
    let n := first + index
    if marks.getD index true || !decide n.isValidChar then none else some (Char.ofNat n)

end Grid

end DistrictAtlas.EastAsian
