import DistrictAtlas.Proofs.Table.Sniffing

/-!
# Written tables are read back

Reading undoes writing. Whatever choices a table was written with, reading it with its delimiter gives
its rows character for character and in order, without the blank ones; and the delimiter itself is
found when the first row shows it more often than any other candidate.
-/

namespace DistrictAtlas.Table

variable {delimiter : Char}

/-- A written table is read back, and its delimiter is found from a first row that has text in it and
more delimiters between its cells than bare occurrences of each other candidate. -/
theorem written_table_read_back (hd : delimiter ∈ candidates) (table : WrittenTable delimiter)
    (hmark : table.MarkIsClear) :
    rowsWith? delimiter table.text = some ((table.rows.map (·.texts)).filter (!isBlankRow ·)) ∧
      ∀ row, table.rows.head? = some row → isBlankRow row.texts = false →
        (∀ c ∈ candidates, c ≠ delimiter → row.bare.count c < row.cells.length - 1) →
        Table.delimiter table.text = delimiter :=
  ⟨rowsWith?_text (isDelimiter_of_mem hd) table hmark,
    fun _ hfirst hblank hlead => delimiter_text hd hmark hfirst hblank hlead⟩

/-- A row with a comma in a bare cell, and with the delimiter, quotes and a line end between quotes. -/
def sampleHeader : WrittenRow ';' :=
  ⟨⟨"id,name", false, by simp [IsPlain, isLineEnd], by decide⟩,
    [⟨"a;\"b\"\r\n", true, nofun, by decide⟩, ⟨"", false, nofun, by decide⟩]⟩

/-- A table with a row that is written as nothing and a last row without an end. -/
def sampleTable : WrittenTable ';' :=
  ⟨false, [(sampleHeader, .carriageReturn), (⟨⟨"", false, nofun, by decide⟩, []⟩, .both)],
    some ⟨⟨"", true, nofun, by decide⟩, [⟨"x\"", true, nofun, by decide⟩]⟩⟩

/-- The sample is read back with its delimiter, which is found although a comma stands in the first
row. -/
theorem written_sampleTable_read_back :
    ';' ∈ candidates ∧ sampleTable.MarkIsClear ∧
      rowsWith? ';' sampleTable.text = some [["id,name", "a;\"b\"\r\n", ""], ["", "x\""]] ∧
      sampleTable.rows.head? = some sampleHeader ∧ isBlankRow sampleHeader.texts = false ∧
      (∀ c ∈ candidates, c ≠ ';' → sampleHeader.bare.count c < sampleHeader.cells.length - 1) ∧
      Table.delimiter sampleTable.text = ';' := by
  have hd : ';' ∈ candidates := by decide
  have hmark : sampleTable.MarkIsClear := fun _ => by decide
  have hblank : isBlankRow sampleHeader.texts = false := by decide
  have hlead : ∀ c ∈ candidates, c ≠ ';' →
      sampleHeader.bare.count c < sampleHeader.cells.length - 1 := forall_candidates.mpr (by decide)
  obtain ⟨hread, hfound⟩ := written_table_read_back hd sampleTable hmark
  exact ⟨hd, hmark, hread.trans (by decide), rfl, hblank, hlead,
    hfound sampleHeader rfl hblank hlead⟩

end DistrictAtlas.Table
