import DistrictAtlas.Proofs.Table.Stretches

/-!
# Reading line by line

A reader that is given a text in physical lines, each with its end. It takes the characters of a line
one by one and then learns that the line is over; once a row has ended on a line, nothing but line
ends may follow on this line, and any other character is refused. A text cut into its lines has no
such character, and line by line it is read as it is in one go.
-/

namespace DistrictAtlas.Table

/-- The physical lines with their ends. A line ends behind a line feed, and behind a carriage return
that no line feed follows. -/
def physicalLines : List Char → List (List Char)
  | [] => []
  | c :: rest =>
    if c = '\n' ∨ c = '\r' ∧ rest.head? ≠ some '\n' then [c] :: physicalLines rest
    else match physicalLines rest with
      | [] => [[c]]
      | line :: lines => (c :: line) :: lines

/-- A reader that is given a text line by line. -/
structure LineReader where
  /-- What has been read so far. -/
  reading : Reading := {}
  /-- Whether the row has ended on this line. -/
  rowOver : Bool := false

namespace LineReader

variable {delimiter c : Char} {reading : Reading}

/-- Takes one more character of the line. Behind the end of the row only line ends are taken. -/
def step (delimiter : Char) (reader : LineReader) (c : Char) : Option LineReader :=
  if reader.rowOver then if isLineEnd c then some reader else none
  else if isLineEnd c = true ∧ reader.reading.stage ≠ .quoted then
    some ⟨reader.reading.closed, true⟩
  else some ⟨reader.reading.step delimiter c, false⟩

/-- The line is over, and with it the row unless a quote is open. -/
def endLine (reader : LineReader) : LineReader :=
  ⟨if reader.reading.stage = .quoted then reader.reading else reader.reading.closed, false⟩

/-- Takes one more line. -/
def takeLine (delimiter : Char) (reader : LineReader) (line : List Char) : Option LineReader :=
  (line.foldlM (step delimiter) reader).map endLine

/-- A closed reading need not be closed again. -/
theorem closed_closed (reading : Reading) : reading.closed.closed = reading.closed := by
  unfold Reading.closed
  by_cases hstart : reading.stage = .rowStart
  · rw [if_pos hstart, if_pos hstart]
  · rw [if_neg hstart]
    rfl

/-- A closed reading stands before a row. -/
theorem stage_closed (reading : Reading) : reading.closed.stage = .rowStart := by
  unfold Reading.closed
  split
  · assumption
  · rfl

/-- Whether the reading is closed at the end does not matter for its rows. -/
theorem finish_closed (reading : Reading) : reading.closed.finish = reading.finish := by
  rw [Reading.finish_eq, Reading.finish_eq, closed_closed]

/-- The first character of a line is taken before the others. -/
theorem foldlM_takeLine_cons (reader : LineReader) (line : List Char) (lines : List (List Char)) :
    ((c :: line) :: lines).foldlM (takeLine delimiter) reader =
      (step delimiter reader c).bind fun next => (line :: lines).foldlM (takeLine delimiter) next := by
  simp only [List.foldlM_cons, takeLine]
  cases step delimiter reader c <;> rfl

/-- A line that is over with its only character, a line end, does what the character does. -/
theorem takeLine_lineEnd (hd : IsDelimiter delimiter) (hc : isLineEnd c = true) :
    takeLine delimiter ⟨reading, false⟩ [c] = some ⟨reading.step delimiter c, false⟩ := by
  have hq := ne_quote_of_isLineEnd hc
  by_cases hquoted : reading.stage = .quoted
  · have hstage : (reading.step delimiter c).stage = .quoted :=
      (Reading.stage_step_eq_quoted_iff hq).mpr hquoted
    simp [takeLine, step, endLine, hc, hquoted, hstage]
  · have hclosed : reading.step delimiter c = reading.closed := Reading.step_rowEnd hc hd hquoted
    simp [takeLine, step, endLine, hc, hquoted, hclosed, stage_closed, closed_closed]

/-- A line feed behind the end of a row is taken as it is taken before a row. -/
theorem takeLine_lineFeed_rowOver (hd : IsDelimiter delimiter) :
    takeLine delimiter ⟨reading.closed, true⟩ ['\n'] =
      takeLine delimiter ⟨reading.closed, false⟩ ['\n'] := by
  have hend : isLineEnd '\n' = true := by decide
  have hstage : reading.closed.stage ≠ .quoted := by simp [stage_closed]
  have hclosed : reading.closed.step delimiter '\n' = reading.closed := by
    rw [Reading.step_rowEnd hend hd hstage]
    exact closed_closed reading
  rw [takeLine_lineEnd hd hend, hclosed]
  simp [takeLine, step, endLine, hend, stage_closed, closed_closed]

/-- Only a text without characters has no line. -/
theorem physicalLines_eq_nil {cs : List Char} (h : physicalLines cs = []) : cs = [] := by
  cases cs with
  | nil => rfl
  | cons c rest =>
    rw [physicalLines] at h
    split at h
    · cases h
    · split at h <;> cases h

/-- A text that begins with a line feed has this alone as its first line. -/
theorem physicalLines_lineFeed (rest : List Char) :
    physicalLines ('\n' :: rest) = ['\n'] :: physicalLines rest := by
  rw [physicalLines, if_pos (Or.inl rfl)]

/-- A last line without an end gives the same rows whether it is closed at the end of the line or at
the end of the text. -/
theorem takeLine_last (delimiter : Char) (hc : isLineEnd c = false) (reading : Reading) :
    ∃ last : Reading, takeLine delimiter ⟨reading, false⟩ [c] = some ⟨last, false⟩ ∧
      last.finish = (reading.step delimiter c).finish := by
  refine ⟨(endLine ⟨reading.step delimiter c, false⟩).reading, ?_, ?_⟩
  · simp [takeLine, step, endLine, hc]
  · unfold endLine
    dsimp only
    split
    · rfl
    · exact finish_closed _

/-- From any point on, the lines of the characters are all taken, and the rows at the end are those of
the characters taken one after the other. -/
theorem foldlM_takeLine (hd : IsDelimiter delimiter) (cs : List Char) (reading : Reading) :
    ∃ last : Reading, (physicalLines cs).foldlM (takeLine delimiter) ⟨reading, false⟩ =
        some ⟨last, false⟩ ∧ last.finish = (cs.foldl (Reading.step delimiter) reading).finish := by
  induction cs generalizing reading with
  | nil => exact ⟨reading, rfl, rfl⟩
  | cons c rest ih =>
    obtain ⟨last, hlast, hfinish⟩ := ih (reading.step delimiter c)
    rw [List.foldl_cons, physicalLines]
    by_cases hends : c = '\n' ∨ c = '\r' ∧ rest.head? ≠ some '\n'
    · have hc : isLineEnd c = true := by
        rcases hends with rfl | ⟨rfl, -⟩ <;> decide
      refine ⟨last, ?_, hfinish⟩
      rw [if_pos hends, List.foldlM_cons, takeLine_lineEnd hd hc]
      exact hlast
    have hpair : isLineEnd c = true → c = '\r' ∧ rest.head? = some '\n' := by
      intro hc
      have hcases : c = '\n' ∨ c = '\r' := by simpa [isLineEnd] using hc
      grind
    rw [if_neg hends]
    cases hlines : physicalLines rest with
    | nil =>
      have hrest : rest = [] := physicalLines_eq_nil hlines
      have hc : isLineEnd c = false := by
        rw [Bool.eq_false_iff]
        intro hend
        have hnext := (hpair hend).2
        rw [hrest] at hnext
        cases hnext
      rw [hrest, List.foldl_nil]
      obtain ⟨last, htake, hsame⟩ := takeLine_last delimiter hc reading
      exact ⟨last, by simp [htake], hsame⟩
    | cons line lines =>
      rw [hlines] at hlast
      refine ⟨last, ?_, hfinish⟩
      dsimp only
      rw [foldlM_takeLine_cons]
      by_cases hover : isLineEnd c = true ∧ reading.stage ≠ .quoted
      · -- a carriage return ends the row, and its line feed follows on the same line
        have hstep : step delimiter ⟨reading, false⟩ c = some ⟨reading.closed, true⟩ := by
          simp [step, hover.1, hover.2]
        have hclosed : reading.step delimiter c = reading.closed :=
          Reading.step_rowEnd hover.1 hd hover.2
        have hline : line = ['\n'] := by
          obtain ⟨behind, hrest⟩ := List.head?_eq_some_iff.mp (hpair hover.1).2
          rw [hrest, physicalLines_lineFeed] at hlines
          exact (List.cons.inj hlines).1.symm
        rw [hclosed, hline, List.foldlM_cons, ← takeLine_lineFeed_rowOver hd] at hlast
        rw [hstep, hline, Option.bind_some, List.foldlM_cons]
        exact hlast
      · have hstep : step delimiter ⟨reading, false⟩ c = some ⟨reading.step delimiter c, false⟩ := by
          simp [step, hover]
        rw [hstep, Option.bind_some]
        exact hlast

end LineReader

/-- The rows of the characters read line by line, or nothing if a character is refused. -/
def rowsByLine? (delimiter : Char) (cs : List Char) : Option (List (List String)) :=
  ((physicalLines cs).foldlM (LineReader.takeLine delimiter) {}).map (·.reading.finish)

/-- Line by line no character is refused, and the rows are those that are read in one go. -/
theorem rowsByLine?_eq {delimiter : Char} (hd : IsDelimiter delimiter) (cs : List Char) :
    rowsByLine? delimiter cs = some (allRows delimiter cs) := by
  obtain ⟨last, hlast, hfinish⟩ := LineReader.foldlM_takeLine hd cs {}
  rw [rowsByLine?, hlast, Option.map_some, hfinish]
  rfl

end DistrictAtlas.Table
