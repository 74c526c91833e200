/-!
# Lines

Cutting a text into its lines, and writing all line ends of a file in one way. A line ends at a line feed, a carriage return, the two together, a
vertical tab, a form feed, one of the file, group and record separators, a next-line control, or a
line or paragraph separator; a text that ends with a line end has no empty line behind it.
-/

namespace DistrictAtlas.Text

/-- Whether the character ends a line. -/
def endsLine (c : Char) : Bool :=
  let n := c.toNat
  (0x0A ≤ n && n ≤ 0x0D) || (0x1C ≤ n && n ≤ 0x1E) || n == 0x85 || n == 0x2028 || n == 0x2029

/-- What has been cut so far. -/
structure LineCut where
  /-- Complete lines, last first. -/
  lines : List String := []
  /-- Characters of the line that is open, last first. -/
  current : List Char := []
  /-- Whether a line is open. -/
  pending : Bool := false
  /-- Whether the character before was a carriage return that ended a line. -/
  afterReturn : Bool := false

/-- Takes one more character. -/
def LineCut.step (cut : LineCut) (c : Char) : LineCut :=
  if c = '\n' && cut.afterReturn then { cut with afterReturn := false }
  else if endsLine c then
    { lines := String.ofList cut.current.reverse :: cut.lines, current := [], pending := false,
      afterReturn := c = '\r' }
  else { cut with current := c :: cut.current, pending := true, afterReturn := false }

/-- The lines of the characters taken. -/
def LineCut.finish (cut : LineCut) : List String :=
  (if cut.pending then String.ofList cut.current.reverse :: cut.lines else cut.lines).reverse

/-- The lines of a text, without their ends. -/
def lines (s : String) : List String :=
  (s.toList.foldl LineCut.step {}).finish

/-- What has been rewritten so far. -/
structure BreakChange where
  /-- The characters, last first. -/
  done : List Char := []
  /-- Whether the character before was a carriage return. -/
  afterReturn : Bool := false

/-- Takes one more character. -/
def BreakChange.step (change : BreakChange) (c : Char) : BreakChange :=
  if c = '\n' && change.afterReturn then { change with afterReturn := false }
  else if c = '\r' then ⟨'\n' :: change.done, true⟩
  else ⟨c :: change.done, false⟩

/-- The text with a line feed for each carriage return, with or without a line feed behind it. -/
def withLineFeeds (s : String) : String :=
  String.ofList (s.toList.foldl BreakChange.step {}).done.reverse

end DistrictAtlas.Text
