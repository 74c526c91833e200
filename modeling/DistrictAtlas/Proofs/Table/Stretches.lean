import DistrictAtlas.Proofs.Table.HeadLine
import DistrictAtlas.Proofs.Table.LongCells

/-!
# Reading stretch by stretch

Rows that are complete stay as they are in front of what is read later. So a text can be read in
stretches: blank lines give blank rows, a stretch whose line ends stand all between quotes gives one
row at most, and behind a line end outside quotes the reader begins anew.
-/

namespace DistrictAtlas.Table

/-- Where the reader stands behind the characters of a row. -/
def stageBehind (delimiter : Char) (cs : List Char) : Stage :=
  (cs.foldl (Reading.step delimiter) {}).stage

namespace Reading

variable {delimiter c : Char} {reading : Reading}

/-- The reading with more complete rows, which come first in the text. -/
def behind (reading : Reading) (rows : List (List String)) : Reading :=
  { reading with rows := reading.rows ++ rows }

/-- A character does the same behind rows that are complete. -/
theorem step_behind (reading : Reading) (rows : List (List String)) (c : Char) :
    step delimiter (reading.behind rows) c = (step delimiter reading c).behind rows := by
  obtain ⟨before, cells, cell, stage⟩ := reading
  cases stage <;> grind [step, behind, add, endCell, endRow]

/-- Characters do the same behind rows that are complete. -/
theorem foldl_step_behind (cs : List Char) (reading : Reading) (rows : List (List String)) :
    cs.foldl (step delimiter) (reading.behind rows) =
      (cs.foldl (step delimiter) reading).behind rows := by
  induction cs generalizing reading with
  | nil => rfl
  | cons c rest ih => rw [List.foldl_cons, List.foldl_cons, step_behind, ih]

/-- At the end the complete rows stand first. -/
theorem finish_behind (reading : Reading) (rows : List (List String)) :
    (reading.behind rows).finish = rows.reverse ++ reading.finish := by
  obtain ⟨before, cells, cell, stage⟩ := reading
  cases stage <;> simp [finish, behind, endRow]

/-- Nothing but a line end outside quotes completes a row. -/
theorem rows_step (h : isLineEnd c = true → reading.stage = .quoted) :
    (step delimiter reading c).rows = reading.rows := by
  cases hend : isLineEnd c with
  | true =>
    have hq := ne_quote_of_isLineEnd hend
    simp [step, h hend, hq, add]
  | false =>
    obtain ⟨before, cells, cell, stage⟩ := reading
    cases stage <;> grind [step, add, endCell]

/-- Without a line end outside quotes no row is completed. -/
theorem rows_foldl_step {cs : List Char}
    (h : ∀ place c, cs[place]? = some c → isLineEnd c = true →
      stageBehind delimiter (cs.take place) = .quoted) :
    (cs.foldl (step delimiter) {}).rows = [] := by
  induction cs using List.reverseRecOn with
  | nil => rfl
  | append_singleton cs c ih =>
    obtain ⟨hfront, hlast⟩ := (forall_places_concat
      (p := fun front c => isLineEnd c = true → stageBehind delimiter front = .quoted) cs c).mp h
    rw [List.foldl_append, List.foldl_cons, List.foldl_nil, rows_step hlast, ih hfront]

/-- Nothing is collected before the first character of a row. -/
theorem isFresh_foldl_step (delimiter : Char) (cs : List Char) :
    (cs.foldl (step delimiter) {}).IsFresh := by
  induction cs using List.reverseRecOn with
  | nil => exact fun _ => ⟨rfl, rfl⟩
  | append_singleton cs c ih =>
    rw [List.foldl_append]
    exact ih.step

/-- A reading that is closed has its rows and nothing else. -/
theorem IsFresh.closed_eq (h : reading.IsFresh) :
    reading.closed = { rows := reading.finish.reverse } := by
  rw [finish_eq, List.reverse_reverse]
  unfold closed
  by_cases hstart : reading.stage = .rowStart
  · obtain ⟨hcells, hcell⟩ := h hstart
    rw [if_pos hstart]
    obtain ⟨rows, cells, cell, stage⟩ := reading
    simp only at hcells hcell hstart
    rw [hcells, hcell, hstart]
  · rw [if_neg hstart]
    rfl

/-- A character that is no quote neither opens one nor closes one. -/
theorem stage_step_eq_quoted_iff (hc : c ≠ '"') :
    (step delimiter reading c).stage = .quoted ↔ reading.stage = .quoted := by
  unfold step
  cases hstage : reading.stage <;> grind [add, endCell, endRow]

/-- A quote opens what was not open and closes what was, but in a bare cell. -/
theorem stage_step_quote (h : reading.stage ≠ .bare) :
    (step delimiter reading '"').stage = .quoted ↔ reading.stage ≠ .quoted := by
  have hend : isLineEnd '"' = false := by decide
  unfold step
  cases hstage : reading.stage <;> simp_all [add]

/-- Everything that has been read is blank, and no quote is open. -/
structure IsBlank (reading : Reading) : Prop where
  /-- Complete rows are blank. -/
  rows_blank : ∀ row ∈ reading.rows, isBlankRow row = true
  /-- Complete cells are blank. -/
  cells_blank : isBlankRow reading.cells = true
  /-- The open cell is blank. -/
  cell_blank : reading.cell.all Text.isBlank = true
  /-- No quote is open. -/
  stage_ne : reading.stage ≠ .quoted

/-- The cells of the row so far are blank, the open one included. -/
theorem IsBlank.openCells_blank (h : reading.IsBlank) :
    isBlankRow (String.ofList reading.cell.reverse :: reading.cells) = true := by
  have hcell : Text.isBlankText (String.ofList reading.cell.reverse) = true := by
    rw [Text.isBlankText, String.toList_ofList, List.all_reverse, h.cell_blank]
  rw [isBlankRow, List.all_cons, hcell, Bool.true_and]
  exact h.cells_blank

/-- A blank character leaves a blank reading blank. -/
theorem IsBlank.step (delimiter : Char) (h : reading.IsBlank) (hc : Text.isBlank c = true) :
    (Reading.step delimiter reading c).IsBlank := by
  have hq : c ≠ '"' := by
    rintro rfl
    exact absurd hc (by decide)
  have hstage : (Reading.step delimiter reading c).stage ≠ .quoted := fun hquoted =>
    h.stage_ne ((stage_step_eq_quoted_iff hq).mp hquoted)
  rcases step_cases delimiter reading c with
    heq | ⟨stage, -, heq⟩ | heq | heq | ⟨stage, -, heq⟩
  · rwa [heq]
  · rw [heq] at hstage ⊢
    exact ⟨h.rows_blank, h.cells_blank, h.cell_blank, hstage⟩
  · rw [heq] at hstage ⊢
    exact ⟨h.rows_blank, h.openCells_blank, rfl, hstage⟩
  · rw [heq] at hstage ⊢
    refine ⟨fun row hrow => ?_, rfl, rfl, hstage⟩
    rcases List.mem_cons.mp hrow with rfl | hrow
    · rw [isBlankRow, List.all_reverse]
      exact h.openCells_blank
    · exact h.rows_blank row hrow
  · rw [heq] at hstage ⊢
    have hcell : (c :: reading.cell).all Text.isBlank = true := by
      rw [List.all_cons, hc, Bool.true_and, h.cell_blank]
    exact ⟨h.rows_blank, h.cells_blank, hcell, hstage⟩

/-- Blank characters leave a blank reading blank. -/
theorem IsBlank.foldl_step (delimiter : Char) {cs : List Char} (h : reading.IsBlank)
    (hcs : cs.all Text.isBlank = true) : (cs.foldl (Reading.step delimiter) reading).IsBlank := by
  induction cs generalizing reading with
  | nil => exact h
  | cons c rest ih =>
    obtain ⟨hc, hrest⟩ := Bool.and_eq_true_iff.mp ((List.all_cons).symm.trans hcs)
    exact ih (h.step delimiter hc) hrest

/-- Behind blank lines with their ends the reader has blank rows and nothing else. -/
theorem foldl_step_blankLines (hd : IsDelimiter delimiter) {cs : List Char}
    (hblank : cs.all Text.isBlank = true)
    (hend : ∀ c, cs.getLast? = some c → isLineEnd c = true) :
    ∃ rows, (∀ row ∈ rows, isBlankRow row = true) ∧
      cs.foldl (step delimiter) {} = { rows } := by
  induction cs using List.reverseRecOn with
  | nil => exact ⟨[], by simp, rfl⟩
  | append_singleton front c =>
    have hc : isLineEnd c = true := hend c (by simp)
    have hstart : IsBlank {} := ⟨by simp, rfl, rfl, Stage.noConfusion⟩
    rw [List.all_append] at hblank
    have hread := hstart.foldl_step delimiter (Bool.and_eq_true_iff.mp hblank).1
    have hrows := (hread.step delimiter (isBlank_of_isLineEnd hc)).rows_blank
    have hstep : step delimiter (front.foldl (step delimiter) {}) c =
        (front.foldl (step delimiter) {}).closed := step_rowEnd hc hd hread.stage_ne
    have hclosed := (isFresh_foldl_step delimiter front).closed_eq
    rw [hstep, hclosed] at hrows
    refine ⟨(front.foldl (step delimiter) {}).finish.reverse, hrows, ?_⟩
    rw [List.foldl_append, List.foldl_cons, List.foldl_nil, hstep, hclosed]

end Reading

variable {delimiter : Char}

/-- A stretch without a line end outside quotes gives one row at most. -/
theorem length_allRows_le_one {cs : List Char}
    (h : ∀ place c, cs[place]? = some c → isLineEnd c = true →
      stageBehind delimiter (cs.take place) = .quoted) :
    (allRows delimiter cs).length ≤ 1 := by
  have hrows := Reading.rows_foldl_step h
  rw [allRows, Reading.finish_eq, List.length_reverse]
  unfold Reading.closed
  split
  · rw [hrows]
    exact Nat.zero_le 1
  · simp [Reading.endRow, hrows]

/-- Behind a stretch that ends outside quotes at a line end the text is read as if it began there. -/
theorem allRows_append_lineEnd (hd : IsDelimiter delimiter) {line : List Char} {c : Char}
    (hc : isLineEnd c = true) (hline : stageBehind delimiter line ≠ .quoted) (rest : List Char) :
    allRows delimiter (line ++ c :: rest) = allRows delimiter line ++ allRows delimiter rest := by
  have hstep : Reading.step delimiter (line.foldl (Reading.step delimiter) {}) c =
      Reading.behind {} (allRows delimiter line).reverse := by
    have hend : Reading.step delimiter (line.foldl (Reading.step delimiter) {}) c =
        (line.foldl (Reading.step delimiter) {}).closed := Reading.step_rowEnd hc hd hline
    rw [hend, (Reading.isFresh_foldl_step delimiter line).closed_eq]
    rfl
  rw [allRows, List.foldl_append, List.foldl_cons, hstep, Reading.foldl_step_behind,
    Reading.finish_behind, List.reverse_reverse]
  rfl

/-- Blank lines in front of a text give blank rows in front of its rows. -/
theorem allRows_blankLines_append (hd : IsDelimiter delimiter) {before : List Char}
    (hblank : before.all Text.isBlank = true)
    (hend : ∀ c, before.getLast? = some c → isLineEnd c = true) (rest : List Char) :
    ∃ rows, (∀ row ∈ rows, isBlankRow row = true) ∧
      allRows delimiter (before ++ rest) = rows ++ allRows delimiter rest := by
  obtain ⟨rows, hrows, hread⟩ := Reading.foldl_step_blankLines hd hblank hend
  have hbehind : before.foldl (Reading.step delimiter) {} = Reading.behind {} rows := hread
  refine ⟨rows.reverse, fun row hrow => hrows row (List.mem_reverse.mp hrow), ?_⟩
  rw [allRows, List.foldl_append, hbehind, Reading.foldl_step_behind, Reading.finish_behind]
  rfl

end DistrictAtlas.Table
