import DistrictAtlas.Fetch.Source
import DistrictAtlas.Proofs.Files.Writing
import DistrictAtlas.Proofs.Number.TextLength
import DistrictAtlas.Proofs.Table.MinimalQuoting
import DistrictAtlas.Proofs.Text.CodeOrder
import DistrictAtlas.Proofs.Text.Utf8
import DistrictAtlas.Report.Classification

/-!
# Classified codes are read back from their file

Writing classified codes to a file sorts them by code and writes one row of text for each. Reading
the file gives these rows again below the headings, whatever delimiters, quotes and line ends stand
in their cells: the bytes decode to the text, the comma is found from the headings, and no row is
blank since each says whether its territory is taken.
-/

namespace DistrictAtlas

/-- The file at a path has the text that was written to it. -/
theorem Source.fileText_of_write {files written : Files} {path : Path} {text : String}
    (h : files.write path text = .ok written) : fileText written path = .ok text := by
  rw [fileText, Files.read_of_write h]
  exact congrArg (Except.mapError Failure.encoding) (Utf8.decode_encode text)

namespace Classified

/-- The rows of a list in the order of their codes, where rows with the same code keep the order
they have in the list. -/
structure SortedByCode (rows sorted : List Classified) : Prop where
  /-- They are the rows of the list. -/
  perm : sorted.Perm rows
  /-- They are in the order of their codes. -/
  ordered : sorted.Pairwise (·.code ≤ ·.code)
  /-- Those with the same code are in the order of the list. -/
  stable : ∀ code, sorted.filter (·.code = code) = rows.filter (·.code = code)

/-- Rows are sorted by code. -/
theorem sortedByCode_sorted (rows : List Classified) : SortedByCode rows (sorted rows) where
  perm := List.mergeSort_perm rows _
  ordered := Text.pairwise_mergeSort_key code rows
  stable := Text.filter_mergeSort_key code rows

/-- There is one such order only. -/
theorem SortedByCode.unique {rows first second : List Classified} (hfirst : SortedByCode rows first)
    (hsecond : SortedByCode rows second) : first = second :=
  Text.eq_of_filter_key code hfirst.ordered hsecond.ordered fun text =>
    (hfirst.stable text).trans (hsecond.stable text).symm

/-- Which order it is can be checked, since only the codes of the rows matter. -/
theorem sortedByCode_iff {rows sorted : List Classified} : SortedByCode rows sorted ↔
    sorted.Perm rows ∧ sorted.Pairwise (·.code ≤ ·.code) ∧
      ∀ code ∈ rows.map (·.code),
        sorted.filter (·.code = code) = rows.filter (·.code = code) := by
  refine ⟨fun h => ⟨h.perm, h.ordered, fun text _ => h.stable text⟩, ?_⟩
  rintro ⟨hperm, hordered, hstable⟩
  refine ⟨hperm, hordered, fun text => ?_⟩
  by_cases htext : text ∈ rows.map (·.code)
  · exact hstable text htext
  · have hnone : ∀ row ∈ rows, ¬decide (row.code = text) = true := fun row hrow heq =>
      htext (List.mem_map.mpr ⟨row, hrow, of_decide_eq_true heq⟩)
    rw [List.filter_eq_nil_iff.mpr hnone, List.filter_eq_nil_iff]
    exact fun row hrow => hnone row (hperm.mem_iff.mp hrow)

instance (rows sorted : List Classified) : Decidable (SortedByCode rows sorted) :=
  decidable_of_iff _ sortedByCode_iff.symm

/-- A row whose cells are not longer than a reader accepts. -/
structure IsShort (row : Classified) : Prop where
  /-- Its code is not too long. -/
  code : row.code.length ≤ Table.cellLimit
  /-- The id of its territory is not too long. -/
  territory : ∀ id ∈ row.territory, id.length ≤ Table.cellLimit
  /-- Its color is not too long. -/
  color : row.color.length ≤ Table.cellLimit

instance (row : Classified) : Decidable row.IsShort :=
  decidable_of_iff (row.code.length ≤ Table.cellLimit ∧
      (∀ id ∈ row.territory, id.length ≤ Table.cellLimit) ∧ row.color.length ≤ Table.cellLimit)
    ⟨fun h => ⟨h.1, h.2.1, h.2.2⟩, fun h => ⟨h.code, h.territory, h.color⟩⟩

/-- The cells of a short row with a number of the double format can be written. -/
theorem isWritable_cells {row : Classified} (h : row.IsShort) (hopacity : row.opacity.IsDouble) :
    Table.IsWritable row.cells := by
  have hterritory : (row.territory.getD "").length ≤ Table.cellLimit := by
    cases hid : row.territory with
    | none => exact Nat.zero_le _
    | some id => exact h.territory id hid
  have htaken : (if row.taken then "true" else "false").length ≤ Table.cellLimit := by
    cases row.taken <;> decide
  have hnumber : (row.opacity.text Binary64.plainSpelling).length ≤ Table.cellLimit :=
    (Binary64.length_text_le hopacity).trans (by decide)
  refine ⟨List.cons_ne_nil _ _, ?_⟩
  simp only [cells, List.forall_mem_cons]
  exact ⟨h.code, hterritory, h.color, htaken, hnumber, List.forall_mem_nil _⟩

/-- No row is blank, as it says whether its territory is taken. -/
theorem isBlankRow_cells (row : Classified) : Table.isBlankRow row.cells = false := by
  have htaken : Text.isBlankText (if row.taken then "true" else "false") = false := by
    cases row.taken <;> decide
  simp [Table.isBlankRow, cells, htaken]

/-- The headings can be written, and they are not blank. -/
theorem headings_ok : Table.IsWritable headings ∧ Table.isBlankRow headings = false :=
  ⟨⟨by decide, by decide⟩, by decide⟩

/-- No candidate other than the comma stands in a heading; nor does the comma. -/
theorem not_mem_headings : ∀ cell ∈ headings, ∀ c ∈ Table.candidates, c ∉ cell.toList := by
  have hthree : ∀ cell ∈ headings, ',' ∉ cell.toList ∧ ';' ∉ cell.toList ∧ '\t' ∉ cell.toList := by
    decide
  exact fun cell hcell => Table.forall_candidates.mpr (hthree cell hcell)

/-- The table of short rows is read as its headings and the rows in order. -/
theorem rows?_table {rows : List Classified}
    (h : ∀ row ∈ rows, row.IsShort ∧ row.opacity.IsDouble) :
    Table.rows? (table rows) = some (headings :: (sorted rows).map cells) := by
  have hrows : ∀ cells ∈ headings :: (sorted rows).map Classified.cells,
      Table.IsWritable cells ∧ Table.isBlankRow cells = false := by
    refine List.forall_mem_cons.mpr ⟨headings_ok, List.forall_mem_map.mpr fun row hrow => ?_⟩
    obtain ⟨hshort, hopacity⟩ := h row ((sortedByCode_sorted rows).perm.mem_iff.mp hrow)
    exact ⟨isWritable_cells hshort hopacity, isBlankRow_cells row⟩
  have hmark : (table rows).toList.head? ≠ some Table.byteOrderMark := by
    have hfirst : (table rows).toList.head? = some 'c' := by
      rw [table, Table.write, String.toList_ofList]
      rfl
    rw [hfirst]
    decide
  exact Table.rows?_write hrows hmark (by decide) fun cell hcell c hc _ =>
    not_mem_headings cell hcell c hc

end Classified

namespace Rulebook

/-- The opacity of a classified code is one of the two of the look. -/
theorem isDouble_opacity {theme : Theme} (hnormal : theme.normalOpacity.IsDouble)
    (hdimmed : theme.dimmedOpacity.IsDouble) {book : Rulebook} {codes : List String}
    {row : Classified} (h : row ∈ book.classify theme codes) : row.opacity.IsDouble := by
  obtain ⟨code, -, rfl⟩ := List.mem_map.mp h
  unfold classifyOne
  dsimp only
  split
  · exact hdimmed
  · exact hnormal

/-- The file to which classified codes were written reads as the headings and one row for each of
them, sorted by code: its code, the id of its territory or nothing, its color, whether it is taken,
and the text of its opacity. -/
theorem classified_read_back (book : Rulebook) {theme : Theme}
    (hnormal : theme.normalOpacity.IsDouble) (hdimmed : theme.dimmedOpacity.IsDouble)
    {codes : List String} (hshort : ∀ row ∈ book.classify theme codes, row.IsShort)
    {files written : Files} {path : Path}
    (hwritten : files.write path (Classified.table (book.classify theme codes)) = .ok written) :
    ∃ text sorted, Source.fileText written path = .ok text ∧
      Classified.SortedByCode (book.classify theme codes) sorted ∧
      Table.rows? text = some (["code", "territory_id", "color", "taken", "opacity"] ::
        sorted.map fun row => [row.code, row.territory.getD "", row.color,
          if row.taken then "true" else "false", row.opacity.text Binary64.plainSpelling]) :=
  ⟨_, _, Source.fileText_of_write hwritten, Classified.sortedByCode_sorted _,
    Classified.rows?_table fun row hrow => ⟨hshort row hrow, isDouble_opacity hnormal hdimmed hrow⟩⟩

/-- A rulebook in which two codes are claimed, one of them with a comma in it, by a territory with
quotes and a line end in its id and by one that is not declared. -/
def sampleBook : Rulebook where
  territories :=
    [("T \"1\";\r\n", ⟨"T \"1\";\r\n", "", 0, 0, "", .taken, "taken", [], "#4e79a7\t"⟩)]
  exact := [("A,1", "T \"1\";\r\n"), ("B2", "gone")]

/-- Codes with blanks around them, one of them twice, and a blank one. -/
def sampleCodes : List String := ["zz", "b2", " a,1", "\t", "A,1 "]

/-- The codes of the sample are written to a new file in a new directory and read back. -/
theorem classified_sampleCodes_read_back :
    ({} : Theme).normalOpacity.IsDouble ∧ ({} : Theme).dimmedOpacity.IsDouble ∧
      (∀ row ∈ sampleBook.classify {} sampleCodes, row.IsShort) ∧
      ∃ written text,
        ({} : Files).write (Path.read "lists/out.csv")
          (Classified.table (sampleBook.classify {} sampleCodes)) = .ok written ∧
        Source.fileText written (Path.read "lists/out.csv") = .ok text ∧
        Table.rows? text = some [["code", "territory_id", "color", "taken", "opacity"],
          ["A,1", "T \"1\";\r\n", "#4e79a7\t", "true", "0.28"],
          ["A,1", "T \"1\";\r\n", "#4e79a7\t", "true", "0.28"],
          ["B2", "gone", "#dddddd", "false", "0.68"], ["ZZ", "", "#dddddd", "false", "0.68"]] := by
  have hnormal := Binary64.isDouble_ofDecimal false 68 2 (-2)
  have hdimmed := Binary64.isDouble_ofDecimal false 28 2 (-2)
  have hshort : ∀ row ∈ sampleBook.classify {} sampleCodes, row.IsShort := by decide +kernel
  have hsample : Classified.SortedByCode (sampleBook.classify {} sampleCodes)
      (sampleBook.classify {} ["A,1", "A,1", "B2", "ZZ"]) := by decide +kernel
  have hcells : (sampleBook.classify {} ["A,1", "A,1", "B2", "ZZ"]).map Classified.cells =
      [["A,1", "T \"1\";\r\n", "#4e79a7\t", "true", "0.28"],
        ["A,1", "T \"1\";\r\n", "#4e79a7\t", "true", "0.28"],
        ["B2", "gone", "#dddddd", "false", "0.68"], ["ZZ", "", "#dddddd", "false", "0.68"]] := by
    decide +kernel
  have hfree : (({} : Files).write (Path.read "lists/out.csv")
      (Classified.table (sampleBook.classify {} sampleCodes))).isOk = true := by
    decide +kernel
  cases hwritten : ({} : Files).write (Path.read "lists/out.csv")
      (Classified.table (sampleBook.classify {} sampleCodes)) with
  | error fault =>
    rw [hwritten] at hfree
    cases hfree
  | ok written =>
    obtain ⟨text, sorted, htext, hsorted, hrows⟩ :=
      classified_read_back sampleBook hnormal hdimmed hshort hwritten
    obtain rfl := hsorted.unique hsample
    exact ⟨hnormal, hdimmed, hshort, written, text, rfl, htext,
      hrows.trans (congrArg (fun cells => some (Classified.headings :: cells)) hcells)⟩

end Rulebook

end DistrictAtlas
