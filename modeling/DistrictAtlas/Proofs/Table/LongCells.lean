import DistrictAtlas.Proofs.Table.Reading

/-!
# Cells that are too long

The reader of a table refuses it for a cell of too many characters. Such a cell is met while the
text is still being read, at the character that is one too many; it may close later, and what comes
behind it does not matter. That it is met at some point of the text is the same as that it stands
among the rows at the end, because a reading never gives up a character that it has collected.
-/

namespace DistrictAtlas.Table

/-- At some point of the characters the cell that the reader collects is longer than it accepts. -/
def MeetsLongCell (delimiter : Char) (cs : List Char) : Prop :=
  ∃ front behind, cs = front ++ behind ∧
    cellLimit < (front.foldl (Reading.step delimiter) {}).cell.length

/-- Some cell of the rows is longer than a reader accepts. -/
def HasLongCell (rows : List (List String)) : Prop :=
  ∃ row ∈ rows, ∃ cell ∈ row, cellLimit < cell.length

namespace Reading

variable {delimiter c : Char} {reading : Reading}

/-- All that a character can do to a reading: nothing, open or close a quote, complete a cell,
complete a row, or add to the cell. None of these leads back before a row but the completion of one.
-/
theorem step_cases (delimiter : Char) (reading : Reading) (c : Char) :
    step delimiter reading c = reading ∨
      (∃ stage, stage ≠ .rowStart ∧ step delimiter reading c = { reading with stage }) ∨
      step delimiter reading c = reading.endCell ∨
      step delimiter reading c = reading.endRow ∨
      ∃ stage, stage ≠ .rowStart ∧ step delimiter reading c = reading.add c stage := by
  unfold step
  cases reading.stage <;> grind

/-- Before the first character of a row nothing has been collected of it. -/
def IsFresh (reading : Reading) : Prop :=
  reading.stage = .rowStart → reading.cells = [] ∧ reading.cell = []

/-- A further character leaves nothing collected before a row. -/
theorem IsFresh.step (h : reading.IsFresh) : (step delimiter reading c).IsFresh := by
  rcases step_cases delimiter reading c with
    heq | ⟨stage, hstage, heq⟩ | heq | heq | ⟨stage, hstage, heq⟩
  · rwa [heq]
  · rw [heq]
    exact fun hstart => absurd hstart hstage
  · rw [heq]
    exact Stage.noConfusion
  · rw [heq]
    exact fun _ => ⟨rfl, rfl⟩
  · rw [heq]
    exact fun hstart => absurd hstart hstage

/-- Some complete cell is longer than a reader accepts. -/
def HasLongCells (reading : Reading) : Prop :=
  HasLongCell (reading.cells :: reading.rows)

/-- The open cell is longer than a reader accepts. -/
def IsLongOpen (reading : Reading) : Prop :=
  cellLimit < reading.cell.length

/-- A completed cell is as long as it was when it was open. -/
theorem hasLongCells_endCell :
    reading.endCell.HasLongCells ↔ reading.HasLongCells ∨ reading.IsLongOpen := by
  unfold HasLongCells HasLongCell IsLongOpen endCell
  simp only [List.mem_cons, exists_eq_or_imp, String.length_ofList, List.length_reverse]
  rw [or_comm (a := cellLimit < reading.cell.length), or_right_comm]

/-- A completed row has the cells that were complete and the one that was open. -/
theorem hasLongCells_endRow :
    reading.endRow.HasLongCells ↔ reading.HasLongCells ∨ reading.IsLongOpen := by
  unfold HasLongCells HasLongCell IsLongOpen endRow
  simp only [List.mem_cons, List.mem_reverse, exists_eq_or_imp, String.length_ofList,
    List.length_reverse, List.not_mem_nil, false_and, exists_false, false_or]
  rw [or_comm (a := cellLimit < reading.cell.length), or_right_comm]

/-- A long cell that is complete after a character was complete before it, or was open. -/
theorem hasLongCells_of_step (h : (step delimiter reading c).HasLongCells) :
    reading.HasLongCells ∨ reading.IsLongOpen := by
  rcases step_cases delimiter reading c with
    heq | ⟨stage, -, heq⟩ | heq | heq | ⟨stage, -, heq⟩
  · rw [heq] at h
    exact Or.inl h
  · rw [heq] at h
    exact Or.inl h
  · rw [heq] at h
    exact hasLongCells_endCell.mp h
  · rw [heq] at h
    exact hasLongCells_endRow.mp h
  · rw [heq] at h
    exact Or.inl h

/-- A long cell, complete or open, is still there after a further character. -/
theorem hasLong_step (h : reading.HasLongCells ∨ reading.IsLongOpen) :
    (step delimiter reading c).HasLongCells ∨ (step delimiter reading c).IsLongOpen := by
  rcases step_cases delimiter reading c with
    heq | ⟨stage, -, heq⟩ | heq | heq | ⟨stage, -, heq⟩
  · rwa [heq]
  · rw [heq]
    exact h
  · rw [heq]
    exact Or.inl (hasLongCells_endCell.mpr h)
  · rw [heq]
    exact Or.inl (hasLongCells_endRow.mpr h)
  · rw [heq]
    exact h.imp_right Nat.lt_succ_of_lt

/-- The rows at the end have a long cell exactly if the reading has one, complete or open. -/
theorem hasLongCell_finish (h : reading.IsFresh) :
    HasLongCell reading.finish ↔ reading.HasLongCells ∨ reading.IsLongOpen := by
  have hrows : HasLongCell reading.finish ↔ HasLongCell reading.closed.rows := by
    rw [finish_eq]
    simp only [HasLongCell, List.mem_reverse]
  rw [hrows]
  unfold closed
  by_cases hstart : reading.stage = .rowStart
  · obtain ⟨hcells, hcell⟩ := h hstart
    rw [if_pos hstart]
    simp [HasLongCells, HasLongCell, IsLongOpen, hcells, hcell]
  · rw [if_neg hstart, ← hasLongCells_endRow]
    simp [HasLongCells, HasLongCell, endRow]

/-- From any point of a reading on, the rows at the end have a long cell exactly if one is complete
already, or if at some later point the open cell is long. -/
theorem hasLongCell_finish_foldl (h : reading.IsFresh) (cs : List Char) :
    HasLongCell (cs.foldl (step delimiter) reading).finish ↔
      reading.HasLongCells ∨ ∃ front behind, cs = front ++ behind ∧
        (front.foldl (step delimiter) reading).IsLongOpen := by
  induction cs generalizing reading with
  | nil =>
    rw [List.foldl_nil, hasLongCell_finish h]
    constructor
    · rintro (hcells | hopen)
      · exact Or.inl hcells
      · exact Or.inr ⟨[], [], rfl, hopen⟩
    · rintro (hcells | ⟨front, behind, hsplit, hopen⟩)
      · exact Or.inl hcells
      · rw [(List.append_eq_nil_iff.mp hsplit.symm).1] at hopen
        exact Or.inr hopen
  | cons c rest ih =>
    rw [List.foldl_cons, ih h.step]
    constructor
    · rintro (hcells | ⟨front, behind, rfl, hopen⟩)
      · rcases hasLongCells_of_step hcells with hcells | hopen
        · exact Or.inl hcells
        · exact Or.inr ⟨[], c :: rest, rfl, hopen⟩
      · exact Or.inr ⟨c :: front, behind, rfl, hopen⟩
    · have hlater : (step delimiter reading c).HasLongCells ∨ (step delimiter reading c).IsLongOpen →
          (step delimiter reading c).HasLongCells ∨ ∃ front behind, rest = front ++ behind ∧
            (front.foldl (step delimiter) (step delimiter reading c)).IsLongOpen :=
        Or.imp_right fun hopen => ⟨[], rest, rfl, hopen⟩
      rintro (hcells | ⟨front, behind, hsplit, hopen⟩)
      · exact hlater (hasLong_step (Or.inl hcells))
      · cases front with
        | nil => exact hlater (hasLong_step (Or.inr hopen))
        | cons first front =>
          rw [List.cons_append, List.cons.injEq] at hsplit
          obtain ⟨rfl, hsplit⟩ := hsplit
          exact Or.inr ⟨front, behind, hsplit, hopen⟩

end Reading

/-- A long cell is met at some point of the characters exactly if it stands among their rows. -/
theorem hasLongCell_allRows_iff (delimiter : Char) (cs : List Char) :
    HasLongCell (allRows delimiter cs) ↔ MeetsLongCell delimiter cs := by
  have hstart : Reading.IsFresh {} := fun _ => ⟨rfl, rfl⟩
  have hnone : ¬Reading.HasLongCells {} := by
    rintro ⟨row, hrow, cell, hcell, -⟩
    rw [List.mem_singleton.mp hrow] at hcell
    cases hcell
  unfold allRows
  rw [Reading.hasLongCell_finish_foldl hstart, or_iff_right hnone]
  rfl

/-- A table is refused exactly if a long cell is met in it, and otherwise its rows that are not
blank are read. -/
theorem rowsWith?_eq (delimiter : Char) (text : String) :
    (MeetsLongCell delimiter (withoutMark text.toList) ∧ rowsWith? delimiter text = none) ∨
      (¬MeetsLongCell delimiter (withoutMark text.toList) ∧ rowsWith? delimiter text =
        some ((allRows delimiter (withoutMark text.toList)).filter (!isBlankRow ·))) := by
  have hlong : ((allRows delimiter (withoutMark text.toList)).any fun row =>
      row.any fun cell => decide (cellLimit < cell.length)) = true ↔
        MeetsLongCell delimiter (withoutMark text.toList) := by
    rw [← hasLongCell_allRows_iff]
    simp only [HasLongCell, List.any_eq_true, decide_eq_true_eq]
  unfold rowsWith?
  dsimp only
  by_cases hmeets : MeetsLongCell delimiter (withoutMark text.toList)
  · exact Or.inl ⟨hmeets, if_pos (hlong.mpr hmeets)⟩
  · exact Or.inr ⟨hmeets, if_neg (hmeets ∘ hlong.mp)⟩

/-- A table without a long cell is read, and its rows are those that are not blank. -/
theorem rowsWith?_eq_some_iff {delimiter : Char} {text : String} {rows : List (List String)} :
    rowsWith? delimiter text = some rows ↔
      ¬HasLongCell (allRows delimiter (withoutMark text.toList)) ∧
        rows = (allRows delimiter (withoutMark text.toList)).filter (!isBlankRow ·) := by
  rw [hasLongCell_allRows_iff]
  rcases rowsWith?_eq delimiter text with ⟨hmeets, hread⟩ | ⟨hmeets, hread⟩
  · simp [hread, hmeets]
  · simp [hread, hmeets, eq_comm]

end DistrictAtlas.Table
