import DistrictAtlas.Table.Rows
import DistrictAtlas.Table.Writing

/-!
# Written tables

The ways to write down a table for a given delimiter. Each cell may stand between quotes, with the
quotes in it doubled, or bare when nothing in it could be taken for structure; each row has an end of
its own choice, the last one may have none, and a byte order mark may stand in front. A written table
knows its rows as well as its characters, so that reading can be compared with it.
-/

namespace DistrictAtlas.Table

/-- The characters that are tried as delimiters. -/
def candidates : List Char := [',', ';', '\t']

/-- What is to be shown of every candidate is shown of the three. -/
theorem forall_candidates {p : Char → Prop} :
    (∀ c ∈ candidates, p c) ↔ p ',' ∧ p ';' ∧ p '\t' := by
  simp only [candidates, List.forall_mem_cons, List.not_mem_nil, false_implies, implies_true,
    and_true]

/-- Whether a character means nothing but itself in a bare cell. -/
def IsPlain (delimiter c : Char) : Prop :=
  c ≠ delimiter ∧ c ≠ '"' ∧ isLineEnd c = false

instance (delimiter c : Char) : Decidable (IsPlain delimiter c) :=
  inferInstanceAs (Decidable (c ≠ delimiter ∧ c ≠ '"' ∧ isLineEnd c = false))

/-- A character that ends a row is no quote. -/
theorem ne_quote_of_isLineEnd {c : Char} (h : isLineEnd c = true) : c ≠ '"' := by
  intro heq
  rw [heq] at h
  exact absurd h (by decide)

/-- Without a byte order mark in front nothing is taken away. -/
theorem withoutMark_of_head? {cs : List Char} (h : cs.head? ≠ some byteOrderMark) :
    withoutMark cs = cs := by
  cases cs with
  | nil => rfl
  | cons c rest =>
    have hne : c ≠ byteOrderMark := fun heq => h (congrArg some heq)
    rw [withoutMark, if_neg hne]

/-- A cell with the choice of how to write it. -/
structure WrittenCell (delimiter : Char) where
  /-- What the cell says. -/
  text : String
  /-- Whether it is written between quotes. -/
  quoted : Bool
  /-- A bare cell has only characters that mean themselves. -/
  plain : quoted = false → ∀ c ∈ text.toList, IsPlain delimiter c
  /-- The cell is not longer than a reader accepts. -/
  short : text.length ≤ cellLimit

/-- The characters of a written cell. -/
def WrittenCell.chars {delimiter : Char} (cell : WrittenCell delimiter) : List Char :=
  if cell.quoted then '"' :: (cell.text.toList.flatMap doubleQuote ++ ['"']) else cell.text.toList

/-- Whether the cell is written as nothing. -/
def WrittenCell.isNothing {delimiter : Char} (cell : WrittenCell delimiter) : Bool :=
  !cell.quoted && cell.text.isEmpty

/-- The characters of the cell outside quotes. -/
def WrittenCell.bare {delimiter : Char} (cell : WrittenCell delimiter) : List Char :=
  if cell.quoted then [] else cell.text.toList

/-- A cell is written with all the characters that it says. -/
theorem WrittenCell.mem_chars {delimiter : Char} {cell : WrittenCell delimiter} {c : Char}
    (h : c ∈ cell.text.toList) : c ∈ cell.chars := by
  have hc : c ∈ doubleQuote c := by
    unfold doubleQuote
    split
    · next heq =>
      rw [heq]
      exact List.mem_cons_self
    · exact List.mem_cons_self
  unfold WrittenCell.chars
  split
  · exact List.mem_cons_of_mem _ (List.mem_append_left _ (List.mem_flatMap.mpr ⟨c, h, hc⟩))
  · exact h

/-- The ends that a row may have. -/
inductive RowEnd where
  /-- A line feed. -/
  | lineFeed
  /-- A carriage return and a line feed. -/
  | both
  /-- A carriage return. -/
  | carriageReturn
deriving DecidableEq, Repr

/-- The characters of the end of a row. -/
def RowEnd.chars : RowEnd → List Char
  | lineFeed => ['\n']
  | both => ['\r', '\n']
  | carriageReturn => ['\r']

/-- A row of one cell at least. -/
structure WrittenRow (delimiter : Char) where
  /-- The first cell. -/
  first : WrittenCell delimiter
  /-- The cells behind it. -/
  others : List (WrittenCell delimiter)

namespace WrittenRow

variable {delimiter : Char}

/-- The cells of the row. -/
def cells (row : WrittenRow delimiter) : List (WrittenCell delimiter) :=
  row.first :: row.others

/-- What the cells say. -/
def texts (row : WrittenRow delimiter) : List String :=
  row.cells.map (·.text)

/-- The characters of the row without its end. -/
def line (row : WrittenRow delimiter) : List Char :=
  row.first.chars ++ row.others.flatMap fun cell => delimiter :: cell.chars

/-- Whether the row is written as nothing, so that only its end can be seen. -/
def isNothing (row : WrittenRow delimiter) : Bool :=
  row.others.isEmpty && row.first.isNothing

/-- A row that is written as nothing has one empty cell. -/
theorem texts_of_isNothing {row : WrittenRow delimiter} (h : row.isNothing = true) :
    row.texts = [""] := by
  unfold isNothing WrittenCell.isNothing at h
  rw [Bool.and_eq_true, Bool.and_eq_true, List.isEmpty_iff, String.isEmpty_iff] at h
  unfold texts cells
  rw [h.1, List.map_cons, List.map_nil, h.2.2]

/-- The characters of the cells of the row outside quotes. -/
def bare (row : WrittenRow delimiter) : List Char :=
  row.cells.flatMap (·.bare)

/-- A row is written with all the characters of its cells. -/
theorem mem_line {row : WrittenRow delimiter} {cell : WrittenCell delimiter} {c : Char}
    (hcell : cell ∈ row.cells) (hc : c ∈ cell.chars) : c ∈ row.line := by
  rcases List.mem_cons.mp hcell with rfl | hother
  · exact List.mem_append_left _ hc
  · exact List.mem_append_right _
      (List.mem_flatMap.mpr ⟨cell, hother, List.mem_cons_of_mem delimiter hc⟩)

/-- A row that is written with blanks alone has blank cells alone. -/
theorem isBlankRow_texts {row : WrittenRow delimiter} (h : row.line.all Text.isBlank = true) :
    isBlankRow row.texts = true := by
  refine List.all_eq_true.mpr fun text htext => List.all_eq_true.mpr fun c hc => ?_
  obtain ⟨cell, hcell, rfl⟩ := List.mem_map.mp htext
  exact List.all_eq_true.mp h c (mem_line hcell (WrittenCell.mem_chars hc))

end WrittenRow

/-- A table with all choices of how to write it. -/
structure WrittenTable (delimiter : Char) where
  /-- Whether a byte order mark stands in front. -/
  marked : Bool
  /-- The rows that have an end. -/
  ended : List (WrittenRow delimiter × RowEnd)
  /-- The last row, when it has no end. -/
  last : Option (WrittenRow delimiter)

namespace WrittenTable

variable {delimiter : Char}

/-- The rows of the table in order. -/
def rows (table : WrittenTable delimiter) : List (WrittenRow delimiter) :=
  table.ended.map (·.1) ++ table.last.toList

/-- The characters of the table behind the mark. -/
def body (table : WrittenTable delimiter) : List Char :=
  (table.ended.flatMap fun row => row.1.line ++ row.2.chars) ++ table.last.toList.flatMap (·.line)

/-- The body begins with the first row, and this is followed by the end of a row or by nothing. -/
theorem body_of_head {table : WrittenTable delimiter} {row : WrittenRow delimiter}
    (h : table.rows.head? = some row) :
    table.body = row.line ∨ ∃ c rest, isLineEnd c = true ∧ table.body = row.line ++ c :: rest := by
  unfold rows at h
  unfold body
  cases hended : table.ended with
  | nil =>
    rw [hended, List.map_nil, List.nil_append] at h
    cases hlast : table.last with
    | none =>
      rw [hlast] at h
      cases h
    | some last =>
      rw [hlast] at h
      cases h
      exact Or.inl (List.append_nil _)
  | cons head rest =>
    rw [hended] at h
    cases h
    refine Or.inr ?_
    rw [List.flatMap_cons, List.append_assoc, List.append_assoc]
    cases head.2 with
    | lineFeed => exact ⟨'\n', _, rfl, rfl⟩
    | both => exact ⟨'\r', _, rfl, rfl⟩
    | carriageReturn => exact ⟨'\r', _, rfl, rfl⟩

/-- The text of the table. -/
def text (table : WrittenTable delimiter) : String :=
  String.ofList (if table.marked then byteOrderMark :: table.body else table.body)

/-- A text without a mark of its own must not look as if it had one. -/
def MarkIsClear (table : WrittenTable delimiter) : Prop :=
  table.marked = false → table.body.head? ≠ some byteOrderMark

/-- Behind the mark a reader finds the body. -/
theorem withoutMark_text (table : WrittenTable delimiter) (h : table.MarkIsClear) :
    withoutMark table.text.toList = table.body := by
  unfold text
  rw [String.toList_ofList]
  cases hmarked : table.marked with
  | true => rw [if_pos rfl, withoutMark, if_pos rfl]
  | false => rw [if_neg Bool.false_ne_true, withoutMark_of_head? (h hmarked)]

end WrittenTable

end DistrictAtlas.Table
