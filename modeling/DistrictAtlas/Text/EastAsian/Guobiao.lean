import DistrictAtlas.Text.EastAsian.GuobiaoCells
import DistrictAtlas.Text.EastAsian.Lead

/-!
# Chinese character sets

The standard set of simplified Chinese takes two bytes for a character, both with their high bit. The
extended set fills the other pairs of bytes with all other hanzi of the common block in their order. The
whole set gives every character a place: in a pair of bytes, private characters among them, or else in
four bytes, where the remaining characters are numbered in order.
-/

namespace DistrictAtlas.EastAsian.Guobiao

/-- The standard set. -/
def standard : Grid := .ofStretches 94 standardRows

/-- The character of the standard set that two numbers from 0x21 to 0x7E write. -/
def standardChar? (a b : Nat) : Option Char :=
  if 0x21 ≤ a ∧ 0x21 ≤ b then standard.at? (a - 0x20) (b - 0x21) else none

/-- The character of two bytes in the standard set. -/
def plain? (a b : Nat) : Option Char :=
  if 0x80 ≤ a ∧ 0x80 ≤ b then standardChar? (a - 0x80) (b - 0x80) else none

/-- The cells of the standard set in the extended one. -/
def revised : Grid := .ofStretches 94 (standardRows ++ furtherRows)

/-- The signs of the extended set. -/
def signs : Grid := .ofStretches 96 signRows

/-- The hanzi that have no cell in the standard set, in the order of their cells in the extended one. -/
def otherHanzi : Array Char := standard.missing 0x4E00 0x9FA5 ++ lateHanzi.toList.toArray

/-- The number of cells of a row of the extended set. -/
def width : Nat := 190

/-- How many of these cells come before those of the standard set. -/
def widthBefore : Nat := 96

/-- The cell in the row that a second byte writes. -/
def cell? (b : Nat) : Option Nat :=
  if 0x40 ≤ b ∧ b ≤ 0x7E then some (b - 0x40)
  else if 0x80 ≤ b ∧ b ≤ 0xFE then some (b - 0x41)
  else none

/-- The character in a cell of the extended set; 32 rows come before those of the standard set. -/
def extendedAt? (row cell : Nat) : Option Char :=
  if row < 32 then otherHanzi[row * width + cell]?
  else if widthBefore ≤ cell then revised.at? (row - 31) (cell - widthBefore)
  else if 41 ≤ row then otherHanzi[32 * width + (row - 41) * widthBefore + cell]?
  else signs.at? (row - 31) cell

/-- The character of two bytes, given the set by rows and cells. -/
def pair? (at? : Nat → Nat → Option Char) (a b : Nat) : Option Char :=
  if 0x81 ≤ a ∧ a ≤ 0xFE then (cell? b).bind (at? (a - 0x81)) else none

/-- The private character in a cell that is left to the users. -/
def userChar? (row cell : Nat) : Option Char :=
  if widthBefore ≤ cell then
    let cell := cell - widthBefore
    if 41 ≤ row ∧ row ≤ 46 then some (Char.ofNat (0xE000 + (row - 41) * 94 + cell))
    else if 119 ≤ row then some (Char.ofNat (0xE234 + (row - 119) * 94 + cell))
    else none
  else if 32 ≤ row ∧ row ≤ 38 then some (Char.ofNat (0xE4C6 + (row - 32) * widthBefore + cell))
  else none

/-- The private character of that number, or the one that came to stand in its place. -/
def privateChar (n : Nat) : Char :=
  let stretch := assigned.find? fun entry => entry.1 ≤ n && n < entry.1 + entry.2.length
  (stretch.bind fun entry => entry.2.toList[n - entry.1]?).getD (Char.ofNat n)

/-- Fills the cell of that number in the whole set; `next` is the private character for the next cell
that nothing else has a claim to. -/
def fillCell (state : Grid × Nat) (index : Nat) : Grid × Nat :=
  let (grid, next) := state
  let (row, cell) := (index / width, index % width)
  match (extendedAt? row cell).or (userChar? row cell) with
  | some c => (grid.put row cell c, next)
  | none => (grid.put row cell (privateChar next), next + 1)

/-- The pairs of bytes of the whole set. -/
def whole : Grid :=
  ((List.range (126 * width)).foldl fillCell (.blank width, 0xE766)).1

/-- The characters of the first plane that no pair of bytes writes, in order. -/
def remaining : Array Char := whole.missing 0x80 0xFFFF

/-- The character of four bytes in the whole set. -/
def four? (a b c d : Nat) : Option Char :=
  if 0x81 ≤ a ∧ a ≤ 0xFE ∧ 0x81 ≤ c ∧ c ≤ 0xFE ∧ 0x30 ≤ d ∧ d ≤ 0x39 then
    let behind := (b - 0x30) * 1260 + (c - 0x81) * 10 + (d - 0x30)
    if a < 0x85 then remaining[(a - 0x81) * 12600 + behind]?
    else if 0x90 ≤ a then
      let n := 0x10000 + (a - 0x90) * 12600 + behind
      if n ≤ 0x10FFFF then some (Char.ofNat n) else none
    else none
  else none

/-- What bytes begin with in the whole set: a digit as the second byte shows that there are four. -/
def wholeLead (a : Nat) (rest : List Nat) : Lead :=
  if a < 0x80 then .chars [Char.ofNat a] 0
  else
    match rest with
    | [] => .cut
    | b :: rest =>
      if 0x30 ≤ b ∧ b ≤ 0x39 then
        match rest with
        | c :: d :: _ =>
          match four? a b c d with
          | some found => .chars [found] 3
          | none => .wrong 0
        | _ => .cut
      else pairLead (pair? whole.at?) a (b :: rest)

/-- What bytes of seven bits begin with, in which a tilde and a brace open or close a section of the
standard set. Behind it stands whether a section is open. -/
def tildeLead (isOpen : Bool) (a : Nat) (rest : List Nat) : Lead × Bool :=
  if a = 0x7E then
    match rest, isOpen with
    | [], _ => (.cut, isOpen)
    | 0x7E :: _, false => (.chars ['~'] 1, false)
    | 0x7B :: _, false => (.chars [] 1, true)
    | 0x0A :: _, false => (.chars [] 1, false)
    | 0x7D :: _, true => (.chars [] 1, false)
    | _, _ => (.wrong 0, isOpen)
  else if 0x80 ≤ a then (.wrong 0, isOpen)
  else if isOpen then (pairLead standardChar? a rest, isOpen)
  else (.chars [Char.ofNat a] 0, isOpen)

end DistrictAtlas.EastAsian.Guobiao
