import DistrictAtlas.Proofs.Table.LineByLine

/-!
# Any text is some table

A text that is not longer than one cell may be is read as a table, however its quotes and line ends
stand. Each row has a cell that is not blank, and the characters of all cells together are characters
of the text in the order of the text: the reader takes each character into the open cell or leaves it
out, and never gives one up.
-/

namespace DistrictAtlas.Table

/-- The characters of all cells, row by row. -/
def cellChars (rows : List (List String)) : List Char :=
  rows.flatten.flatMap String.toList

/-- The characters of rows one behind the other. -/
theorem cellChars_append (rows rows' : List (List String)) :
    cellChars (rows ++ rows') = cellChars rows ++ cellChars rows' := by
  simp [cellChars]

/-- The characters of a row stand in front of those of the rows behind it. -/
theorem cellChars_cons (row : List String) (rows : List (List String)) :
    cellChars (row :: rows) = row.flatMap String.toList ++ cellChars rows := by
  simp [cellChars]

/-- Rows left out leave their characters out. -/
theorem cellChars_sublist {rows rows' : List (List String)} (h : rows.Sublist rows') :
    (cellChars rows).Sublist (cellChars rows') := by
  induction h with
  | slnil => exact List.Sublist.refl _
  | cons row _ ih =>
    rw [cellChars_cons]
    exact ih.trans (List.sublist_append_right _ _)
  | cons_cons row _ ih =>
    rw [cellChars_cons, cellChars_cons]
    exact (List.Sublist.refl _).append ih

/-- A cell is not longer than all cells together. -/
theorem length_le_length_cellChars {rows : List (List String)} {row : List String} {cell : String}
    (hrow : row ∈ rows) (hcell : cell ∈ row) : cell.length ≤ (cellChars rows).length := by
  have hmem : cell.toList ∈ rows.flatten.map String.toList :=
    List.mem_map_of_mem (List.mem_flatten.mpr ⟨row, hrow, hcell⟩)
  have hpart : cell.toList.Sublist (cellChars rows) := by
    rw [cellChars, List.flatMap_def]
    exact List.sublist_flatten_of_mem hmem
  rw [← String.length_toList]
  exact hpart.length_le

namespace Reading

/-- The characters that a reading has collected, in the order of the text. -/
def collected (reading : Reading) : List Char :=
  cellChars reading.rows.reverse ++ cellChars [reading.openRow]

/-- A character is collected or left out. -/
theorem collected_step (delimiter : Char) (reading : Reading) (c : Char) :
    (step delimiter reading c).collected = reading.collected ∨
      (step delimiter reading c).collected = reading.collected ++ [c] := by
  rcases step_cases delimiter reading c with
    heq | ⟨stage, -, heq⟩ | heq | heq | ⟨stage, -, heq⟩
  · exact Or.inl (by rw [heq])
  · exact Or.inl (by rw [heq]; rfl)
  · refine Or.inl ?_
    rw [heq]
    simp [collected, cellChars, openRow, endCell]
  · refine Or.inl ?_
    rw [heq]
    simp [collected, cellChars, openRow, endRow]
  · refine Or.inr ?_
    rw [heq]
    simp [collected, cellChars, openRow, add]

/-- What is collected of characters is some of them, in their order. -/
theorem collected_foldl_step_sublist (delimiter : Char) (cs : List Char) :
    (cs.foldl (step delimiter) {}).collected.Sublist cs := by
  induction cs using List.reverseRecOn with
  | nil => exact List.Sublist.refl _
  | append_singleton cs c ih =>
    rw [List.foldl_append, List.foldl_cons, List.foldl_nil]
    rcases collected_step delimiter (cs.foldl (step delimiter) {}) c with
      hleft | htaken
    · rw [hleft]
      exact ih.trans (List.sublist_append_left cs [c])
    · rw [htaken]
      exact ih.append (List.Sublist.refl [c])

/-- The rows at the end have the characters that were collected. -/
theorem cellChars_finish {reading : Reading} (h : reading.IsFresh) :
    cellChars reading.finish = reading.collected := by
  rw [finish_eq]
  unfold closed
  by_cases hstart : reading.stage = .rowStart
  · obtain ⟨hcells, hcell⟩ := h hstart
    rw [if_pos hstart]
    simp [collected, cellChars, openRow, hcells, hcell]
  · rw [if_neg hstart, collected, ← cellChars_append]
    simp [endRow, openRow]

end Reading

/-- The characters of all rows are characters of the text in its order. -/
theorem cellChars_allRows_sublist (delimiter : Char) (cs : List Char) :
    (cellChars (allRows delimiter cs)).Sublist cs := by
  rw [allRows, Reading.cellChars_finish (Reading.isFresh_foldl_step delimiter cs)]
  exact Reading.collected_foldl_step_sublist delimiter cs

/-- Without a mark in front the characters are some of the text, in their order. -/
theorem withoutMark_sublist (cs : List Char) : (withoutMark cs).Sublist cs := by
  cases cs with
  | nil => exact List.Sublist.refl _
  | cons c rest =>
    rw [withoutMark]
    split
    · exact List.sublist_cons_self c rest
    · exact List.Sublist.refl _

/-- A text not longer than one cell may be is read with any candidate as its delimiter. Line by line no
character is refused, and the rows are the same. Each of them has a cell that is not blank, and the
characters of all cells are characters of the text in its order. -/
theorem any_text_read {delimiter : Char} (hd : delimiter ∈ candidates) {text : String}
    (hlength : text.length ≤ cellLimit) :
    ∃ rows, rowsWith? delimiter text = some rows ∧
      (rowsByLine? delimiter (withoutMark text.toList)).map (·.filter (!isBlankRow ·)) = some rows ∧
      (∀ row ∈ rows, ∃ cell ∈ row, Text.isBlankText cell = false) ∧
      (cellChars rows).Sublist text.toList := by
  have hall := (cellChars_allRows_sublist delimiter (withoutMark text.toList)).trans
    (withoutMark_sublist text.toList)
  have hshort : ¬HasLongCell (allRows delimiter (withoutMark text.toList)) := by
    rintro ⟨row, hrow, cell, hcell, hlong⟩
    have hcells := length_le_length_cellChars hrow hcell
    have htext := hall.length_le
    rw [String.length_toList] at htext
    omega
  refine ⟨_, rowsWith?_eq_some_iff.mpr ⟨hshort, rfl⟩, ?_, ?_, ?_⟩
  · rw [rowsByLine?_eq (isDelimiter_of_mem hd), Option.map_some]
  · intro row hrow
    have hblank : isBlankRow row = false := by simpa using (List.mem_filter.mp hrow).2
    obtain ⟨cell, hcell, hsome⟩ := List.all_eq_false.mp hblank
    exact ⟨cell, hcell, by simpa using hsome⟩
  · exact (cellChars_sublist List.filter_sublist).trans hall

/-- Quotes in the middle of cells and behind a closing quote, a lone carriage return, a blank row, a
null character, and a quote that is open at the end. -/
def malformedText : String := "a\"b,\"c\n\"\"d\"e\r , \r\n\x00,\n\"open,\r"

/-- The sample is read, and nothing is made up or put in another place. -/
theorem malformedText_read :
    ',' ∈ candidates ∧ malformedText.length ≤ cellLimit ∧
      rowsWith? ',' malformedText =
        some [["a\"b", "c\n\"de"], ["\x00", ""], ["open,\r"]] ∧
      (rowsByLine? ',' (withoutMark malformedText.toList)).map (·.filter (!isBlankRow ·)) =
        some [["a\"b", "c\n\"de"], ["\x00", ""], ["open,\r"]] ∧
      (cellChars [["a\"b", "c\n\"de"], ["\x00", ""], ["open,\r"]]).Sublist
        malformedText.toList := by
  have hd : ',' ∈ candidates := by decide
  have hlength : malformedText.length ≤ cellLimit := by decide
  have hrows : rowsWith? ',' malformedText =
      some [["a\"b", "c\n\"de"], ["\x00", ""], ["open,\r"]] := by decide
  obtain ⟨rows, hread, hlines, -, hchars⟩ := any_text_read hd hlength
  have hsame : rows = [["a\"b", "c\n\"de"], ["\x00", ""], ["open,\r"]] :=
    Option.some.inj (hread.symm.trans hrows)
  rw [hsame] at hlines hchars
  exact ⟨hd, hlength, hrows, hlines, hchars⟩

end DistrictAtlas.Table
