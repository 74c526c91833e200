import DistrictAtlas.Proofs.Table.Sniffing

/-!
# Tables with as few quotes as possible

A table that is written with quotes only where they are needed is one of the tables that can be
written with commas. So it is read back, and the comma is found to be its delimiter when the first
row has at least two cells and no other candidate in any of them.
-/

namespace DistrictAtlas.Table

/-- A character that needs no quotes is plain between commas. -/
theorem isPlain_of_needsQuotes {c : Char} (h : needsQuotes c = false) : IsPlain ',' c := by
  unfold needsQuotes at h
  rw [Bool.or_eq_false_iff, Bool.or_eq_false_iff, decide_eq_false_iff_not,
    decide_eq_false_iff_not] at h
  exact ⟨h.1.1, h.1.2, h.2⟩

/-- A cell with quotes only if it needs them. -/
def minimalCell (text : String) (short : text.length ≤ cellLimit) : WrittenCell ',' where
  text := text
  quoted := text.toList.any needsQuotes
  plain := fun hbare c hc =>
    isPlain_of_needsQuotes (Bool.eq_false_iff.mpr (List.any_eq_false.mp hbare c hc))
  short := short

/-- An empty cell between quotes. -/
def emptyQuoted : WrittenCell ',' := ⟨"", true, nofun, Nat.zero_le _⟩

/-- A row of one cell at least, none of which is longer than a reader accepts. -/
structure IsWritable (row : List String) : Prop where
  /-- There is a cell. -/
  ne_nil : row ≠ []
  /-- No cell is too long. -/
  short : ∀ cell ∈ row, cell.length ≤ cellLimit

/-- Pieces with a separator between them. -/
theorem intercalate_cons {α : Type} (separator first : List α) (rest : List (List α)) :
    separator.intercalate (first :: rest) = first ++ rest.flatMap (separator ++ ·) := by
  induction rest generalizing first with
  | nil => rw [List.intercalate_singleton, List.flatMap_nil, List.append_nil]
  | cons second rest ih =>
    rw [List.intercalate_cons_cons, ih, List.flatMap_cons, List.append_assoc, List.append_assoc]

/-- Any row but that of one empty cell is written as a row of cells with as few quotes as possible.
-/
theorem writeRow_cons {first : String} {others : List String} (h : first :: others ≠ [""]) :
    writeRow (first :: others) =
      List.intercalate [','] ((first :: others).map writeCell) ++ ['\r', '\n'] := by
  unfold writeRow
  split
  · next heq => exact absurd heq h
  · rfl

/-- A row is written as a row with commas between its cells. -/
theorem IsWritable.exists_writtenRow {cells : List String} (h : IsWritable cells) :
    ∃ row : WrittenRow ',', row.texts = cells ∧ row.line ++ RowEnd.both.chars = writeRow cells := by
  obtain ⟨hnonempty, hshort⟩ := h
  cases cells with
  | nil => exact absurd rfl hnonempty
  | cons first others =>
    -- a row of one empty cell would look like no row, and is quoted for this reason alone
    by_cases hempty : first :: others = [""]
    · rw [hempty]
      exact ⟨⟨emptyQuoted, []⟩, rfl, rfl⟩
    · have hothers : ∀ cell ∈ others, cell.length ≤ cellLimit :=
        fun cell hcell => hshort cell (List.mem_cons_of_mem first hcell)
      refine ⟨⟨minimalCell first (hshort first List.mem_cons_self),
        others.pmap minimalCell hothers⟩, ?_, ?_⟩
      · rw [WrittenRow.texts, WrittenRow.cells, List.map_cons, List.map_pmap]
        exact congrArg (first :: ·) ((List.pmap_eq_map hothers).trans (List.map_id others))
      · have hchars : (others.pmap minimalCell hothers).map (',' :: ·.chars) =
            others.map (',' :: writeCell ·) := by
          rw [List.map_pmap]
          -- by definition a cell is written as `writeCell` says
          exact List.pmap_eq_map (f := (',' :: writeCell ·)) hothers
        rw [writeRow_cons hempty, List.map_cons, intercalate_cons, WrittenRow.line,
          List.flatMap_def, hchars, List.flatMap_map]
        rfl

/-- Rows are written as rows that end with a carriage return and a line feed. -/
theorem exists_writtenRows {rows : List (List String)} (h : ∀ row ∈ rows, IsWritable row) :
    ∃ written : List (WrittenRow ','), written.map (·.texts) = rows ∧
      (written.flatMap fun row => row.line ++ RowEnd.both.chars) = rows.flatMap writeRow := by
  induction rows with
  | nil => exact ⟨[], rfl, rfl⟩
  | cons cells rest ih =>
    obtain ⟨row, htexts, hchars⟩ := (h cells List.mem_cons_self).exists_writtenRow
    obtain ⟨written, hrest, hbody⟩ :=
      ih fun other hother => h other (List.mem_cons_of_mem cells hother)
    refine ⟨row :: written, ?_, ?_⟩
    · rw [List.map_cons, htexts, hrest]
    · rw [List.flatMap_cons, List.flatMap_cons, hchars, hbody]

/-- The table of rows that all end with a carriage return and a line feed. -/
def plainTable (written : List (WrittenRow ',')) : WrittenTable ',' :=
  ⟨false, written.map (·, .both), none⟩

/-- The rows of a plain table are those that were written, the last one among them. -/
theorem rows_plainTable (written : List (WrittenRow ',')) :
    (plainTable written).rows = written := by
  rw [WrittenTable.rows, plainTable, List.map_map, Option.toList_none, List.append_nil]
  exact List.map_id written

/-- The characters of a plain table are those of its rows, each with both characters of a row end. -/
theorem body_plainTable (written : List (WrittenRow ',')) :
    (plainTable written).body = written.flatMap fun row => row.line ++ RowEnd.both.chars := by
  rw [WrittenTable.body, plainTable, List.flatMap_map, Option.toList_none, List.flatMap_nil,
    List.append_nil]

/-- A character that is in no cell of a row is not in a bare one. -/
theorem WrittenRow.count_bare_eq_zero {delimiter : Char} {row : WrittenRow delimiter} {c : Char}
    (h : ∀ text ∈ row.texts, c ∉ text.toList) : row.bare.count c = 0 := by
  refine List.count_eq_zero.mpr fun hmem => ?_
  obtain ⟨cell, hcell, hc⟩ := List.mem_flatMap.mp hmem
  refine h cell.text (List.mem_map_of_mem hcell) ?_
  unfold WrittenCell.bare at hc
  split at hc
  · cases hc
  · exact hc

/-- What is found without a mark in front is found behind one that is not there. -/
theorem delimiterOf_withoutMark_text {table : WrittenTable ','} (hmarked : table.marked = false)
    (hmark : table.MarkIsClear) :
    delimiterOf (withoutMark table.text.toList) = Table.delimiter table.text := by
  have htext : table.text.toList = table.body := by
    rw [WrittenTable.text, hmarked, if_neg Bool.false_ne_true, String.toList_ofList]
  rw [table.withoutMark_text hmark, Table.delimiter, htext]

/-- A table of rows that are not blank is read back as it was written, with the delimiter that is
found, when the first row has two cells or more, no candidate other than the comma in them, and no
byte order mark in front. -/
theorem rows?_write {header : List String} {rows : List (List String)}
    (hrows : ∀ row ∈ header :: rows, IsWritable row ∧ isBlankRow row = false)
    (hmark : (write (header :: rows)).toList.head? ≠ some byteOrderMark)
    (hcells : 2 ≤ header.length)
    (hclear : ∀ cell ∈ header, ∀ c ∈ candidates, c ≠ ',' → c ∉ cell.toList) :
    rows? (write (header :: rows)) = some (header :: rows) := by
  obtain ⟨written, htexts, hbody⟩ := exists_writtenRows fun row hrow => (hrows row hrow).1
  have htext : write (header :: rows) = (plainTable written).text := by
    rw [WrittenTable.text, body_plainTable, hbody]
    rfl
  have hclearMark : (plainTable written).MarkIsClear := by
    intro _
    rw [htext, WrittenTable.text] at hmark
    rwa [String.toList_ofList] at hmark
  obtain ⟨first, rest, rfl, hfirst, -⟩ := List.map_eq_cons_iff.mp htexts
  have hhead : (plainTable (first :: rest)).rows.head? = some first := by
    rw [rows_plainTable]
    rfl
  have hblank : isBlankRow first.texts = false := by
    rw [hfirst]
    exact (hrows header List.mem_cons_self).2
  have hlength : first.others.length + 1 = header.length := by
    rw [← hfirst, WrittenRow.texts, List.length_map]
    rfl
  have hlead : ∀ c ∈ candidates, c ≠ ',' → first.bare.count c < first.others.length := by
    intro c hc hne
    have hnone : first.bare.count c = 0 := WrittenRow.count_bare_eq_zero fun text hmem =>
      hclear text (hfirst ▸ hmem) c hc hne
    omega
  have hdelimiter : Table.delimiter (plainTable (first :: rest)).text = ',' :=
    delimiter_text List.mem_cons_self hclearMark hhead hblank hlead
  have hkept : (header :: rows).filter (!isBlankRow ·) = header :: rows :=
    List.filter_eq_self.mpr fun row hrow => by rw [(hrows row hrow).2]; rfl
  rw [rows?, htext, delimiterOf_withoutMark_text rfl hclearMark, hdelimiter,
    rowsWith?_text (isDelimiter_of_mem List.mem_cons_self) _ hclearMark, rows_plainTable, htexts,
    hkept]

end DistrictAtlas.Table
