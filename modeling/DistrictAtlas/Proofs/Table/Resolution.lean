import DistrictAtlas.Proofs.Entries
import DistrictAtlas.Proofs.Table.LongCells
import DistrictAtlas.Proofs.Text.Tidying
import DistrictAtlas.Table.Records

/-!
# When a table can be resolved

A table is resolved or refused for what its reader meets and for its first row that is not blank,
and for nothing else. The reader must meet no cell that is too long, and then each required field
must be named by a cell of that row. A fault names the required fields that are not, in their order;
where there is no such row, these are all of them.
-/

namespace DistrictAtlas.Table

/-- A cell is one of the names of a field, as names are compared. -/
def IsNameOf (field : Field) (cell : String) : Prop :=
  ∃ name ∈ field.aliases, plainName cell = plainName name

instance (field : Field) (cell : String) : Decidable (IsNameOf field cell) :=
  inferInstanceAs (Decidable (∃ name ∈ field.aliases, plainName cell = plainName name))

/-- The row that is taken for the header: the first one that is not blank. -/
def headerRow? (rows : List (List String)) : Option (List String) :=
  rows.find? (!isBlankRow ·)

/-- The required fields that no cell of the header names; without a header, all of them. -/
def absentFields (header : Option (List String)) : List Field :=
  [Field.id, Field.tokens].filter fun field => ¬∃ row ∈ header, ∃ cell ∈ row, IsNameOf field cell

/-- Blanks around a name do not count. -/
theorem plainName_trim (name : String) : plainName (Text.trim name) = plainName name := by
  unfold plainName
  rw [Text.toList_trim, Text.trimChars_trimChars]

/-- Blanks around the cells of a header do not count. -/
theorem absentFields_map_trim (header : List String) :
    absentFields (some (header.map Text.trim)) = absentFields (some header) := by
  unfold absentFields IsNameOf
  simp only [Option.mem_some_iff, exists_eq_left', List.mem_map, exists_exists_and_eq_and,
    plainName_trim]

/-- A column is found exactly if the header has one of the names. -/
theorem isSome_findColumn_iff (header names : List String) :
    (findColumn header names).isSome = true ↔ ∃ name ∈ names, name ∈ header := by
  induction names with
  | nil => simp [findColumn]
  | cons name rest ih =>
    rw [findColumn, List.exists_mem_cons_iff]
    cases hfound : header.findIdx? (· = name) with
    | some index =>
      obtain ⟨hindex, hname, -⟩ := List.findIdx?_eq_some_iff_getElem.mp hfound
      have hmem : name ∈ header := by
        rw [← of_decide_eq_true hname]
        exact List.getElem_mem hindex
      exact ⟨fun _ => Or.inl hmem, fun _ => rfl⟩
    | none =>
      have hnone : name ∉ header := by
        intro hmem
        have hother := List.findIdx?_eq_none_iff.mp hfound name hmem
        rw [decide_eq_false_iff_not] at hother
        exact hother rfl
      rw [ih, or_iff_right hnone]

/-- A field has a column exactly if some cell of the header is a name of it. -/
theorem isSome_column?_iff (header : List String) (field : Field) :
    (column? (header.map plainName) field).isSome = true ↔ ∃ cell ∈ header, IsNameOf field cell := by
  unfold column? IsNameOf
  rw [isSome_findColumn_iff]
  constructor
  · rintro ⟨plain, hplain, hheader⟩
    obtain ⟨name, hname, rfl⟩ := List.mem_map.mp hplain
    obtain ⟨cell, hcell, heq⟩ := List.mem_map.mp hheader
    exact ⟨cell, hcell, name, hname, heq⟩
  · rintro ⟨cell, hcell, name, hname, heq⟩
    exact ⟨plainName name, List.mem_map_of_mem hname, List.mem_map.mpr ⟨cell, hcell, heq⟩⟩

/-- Under a field the table of columns holds the column of the field, for every field. -/
theorem get?_columns (header : List String) (field : Field) :
    Entries.get? field (columns header) = column? (header.map plainName) field := by
  have hlisted : Field.all.contains field = true := by cases field <;> rfl
  unfold columns
  dsimp only
  rw [Entries.get?_filterMap, if_pos hlisted]

/-- The required fields without a column are those that the header does not name. -/
theorem missingFields_columns (header : List String) :
    missingFields (columns header) = absentFields (some header) := by
  unfold missingFields absentFields Field.required
  refine List.filter_congr fun field _ => ?_
  rw [Bool.eq_iff_iff, Bool.not_eq_true', ← Bool.not_eq_true, decide_eq_true_iff, Entries.has,
    get?_columns, isSome_column?_iff]
  simp only [Option.mem_some_iff, exists_eq_left']

/-- The fault is about the header of a table. -/
def Fault.IsAboutHeader (fault : Fault) : Prop := fault ≠ .cellTooLong

/-- Rows are resolved if their first names all required fields, whatever stands in the others, and
the fault names the required fields that it does not. -/
theorem resolveRows_cases (delimiter : Char) (rows : List (List String)) :
    (absentFields rows.head? = [] ∧ ∃ resolved, resolveRows delimiter rows = .ok resolved) ∨
      (absentFields rows.head? ≠ [] ∧ ∃ fault, resolveRows delimiter rows = .error fault ∧
        fault.IsAboutHeader ∧ fault.missingFields = absentFields rows.head?) := by
  cases rows with
  | nil => exact Or.inr ⟨by decide, .noHeader, rfl, Fault.noConfusion, by decide⟩
  | cons first rest =>
    have hmissing : missingFields (columns (first.map Text.trim)) = absentFields (some first) :=
      (missingFields_columns _).trans (absentFields_map_trim first)
    unfold resolveRows
    dsimp only
    rw [List.head?_cons, hmissing]
    cases habsent : absentFields (some first) with
    | nil => exact Or.inl ⟨rfl, _, rfl⟩
    | cons field fields =>
      exact Or.inr ⟨List.cons_ne_nil _ _, .missing (field :: fields), rfl, Fault.noConfusion, rfl⟩

/-- The required fields that the header row of a text does not name. -/
def absentFieldsOf (text : String) : List Field :=
  absentFields (headerRow? (allRows (delimiter text) (withoutMark text.toList)))

/-- The reader of the text meets a cell that is too long. -/
def HasCellTooLong (text : String) : Prop :=
  MeetsLongCell (delimiter text) (withoutMark text.toList)

/-- A text meets one of three ends: its reader meets a cell that is too long, or its header lacks
required fields, or it is resolved. -/
theorem resolve_cases (text : String) :
    (HasCellTooLong text ∧ resolve text = .error .cellTooLong) ∨
      (¬HasCellTooLong text ∧ absentFieldsOf text ≠ [] ∧ ∃ fault, resolve text = .error fault ∧
        fault.IsAboutHeader ∧ fault.missingFields = absentFieldsOf text) ∨
      (¬HasCellTooLong text ∧ absentFieldsOf text = [] ∧
        ∃ resolved, resolve text = .ok resolved) := by
  unfold resolve
  dsimp only
  rcases rowsWith?_eq (delimiter text) text with ⟨hlong, hrows⟩ | ⟨hlong, hrows⟩
  · rw [hrows]
    exact Or.inl ⟨hlong, rfl⟩
  · have hheader : absentFields
        ((allRows (delimiter text) (withoutMark text.toList)).filter (!isBlankRow ·)).head? =
          absentFieldsOf text := by
      rw [List.head?_filter]
      rfl
    have hcases := resolveRows_cases (delimiter text)
      ((allRows (delimiter text) (withoutMark text.toList)).filter (!isBlankRow ·))
    rw [hheader] at hcases
    rw [hrows]
    refine Or.inr ?_
    rcases hcases with ⟨habsent, hok⟩ | ⟨habsent, herror⟩
    · exact Or.inr ⟨hlong, habsent, hok⟩
    · exact Or.inl ⟨hlong, habsent, herror⟩

/-- A table without a byte order mark in front is resolved from the rows that are read. -/
theorem resolve_of_rows? {text : String} {rows : List (List String)}
    (hmark : text.toList.head? ≠ some byteOrderMark) (h : rows? text = some rows) :
    resolve text = resolveRows (delimiter text) rows := by
  unfold rows? at h
  rw [withoutMark_of_head? hmark] at h
  unfold resolve delimiter
  dsimp only
  rw [h]

end DistrictAtlas.Table
