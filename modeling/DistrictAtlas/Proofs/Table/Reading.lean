import DistrictAtlas.Proofs.Table.Layout

/-!
# Reading a written table

The reader is followed through a written table: through the characters of a cell, over a delimiter
into the next cell, and over the end of a row. Behind a cell it has collected the text of the cell
whatever the choice of quotes, and behind a row it has collected the row, except for the row that is
written as nothing at all.
-/

namespace DistrictAtlas.Table

/-- A delimiter that cannot be taken for a quote or the end of a row. -/
structure IsDelimiter (delimiter : Char) : Prop where
  /-- It is no quote. -/
  notQuote : delimiter ≠ '"'
  /-- It ends no row. -/
  notEnd : isLineEnd delimiter = false

/-- Every candidate can be a delimiter. -/
theorem isDelimiter_of_mem {delimiter : Char} (h : delimiter ∈ candidates) :
    IsDelimiter delimiter := by
  have hall : ∀ c ∈ candidates, c ≠ '"' ∧ isLineEnd c = false := forall_candidates.mpr (by decide)
  exact ⟨(hall delimiter h).1, (hall delimiter h).2⟩

namespace Reading

variable {delimiter : Char} {rows : List (List String)} {cells : List String} {cell : List Char}
  {stage : Stage}

/-- Outside quotes a plain character is collected into a bare cell. -/
theorem step_plain {c : Char} (hc : IsPlain delimiter c) (hstage : stage ≠ .quoted) :
    step delimiter ⟨rows, cells, cell, stage⟩ c = ⟨rows, cells, c :: cell, .bare⟩ := by
  obtain ⟨hd, hq, hend⟩ := hc
  cases stage with
  | quoted => exact absurd rfl hstage
  | _ => simp [step, add, hd, hq, hend]

/-- Outside quotes the delimiter completes the cell. -/
theorem step_delimiter (hd : IsDelimiter delimiter) (hstage : stage ≠ .quoted) :
    step delimiter ⟨rows, cells, cell, stage⟩ delimiter =
      ⟨rows, String.ofList cell.reverse :: cells, [], .cellStart⟩ := by
  cases stage with
  | quoted => exact absurd rfl hstage
  | _ => simp [step, endCell, hd.notQuote, hd.notEnd]

/-- The reading once the row has ended. Before the first character of a row there is none to end. -/
def closed (reading : Reading) : Reading :=
  if reading.stage = .rowStart then reading else reading.endRow

/-- Outside quotes the end of a row completes it. -/
theorem step_rowEnd {c : Char} (hc : isLineEnd c = true) (hd : IsDelimiter delimiter)
    (hstage : stage ≠ .quoted) :
    step delimiter ⟨rows, cells, cell, stage⟩ c = closed ⟨rows, cells, cell, stage⟩ := by
  have hne : c ≠ delimiter := by
    intro heq
    rw [heq, hd.notEnd] at hc
    exact Bool.false_ne_true hc
  have hq := ne_quote_of_isLineEnd hc
  cases stage with
  | quoted => exact absurd rfl hstage
  | _ => simp [step, closed, hc, hne, hq]

/-- A quote in front of a cell opens it. -/
theorem step_openQuote (hstage : stage = .rowStart ∨ stage = .cellStart) :
    step delimiter ⟨rows, cells, cell, stage⟩ '"' = ⟨rows, cells, cell, .quoted⟩ := by
  have hend : isLineEnd '"' = false := by decide
  rcases hstage with rfl | rfl <;> simp [step, hend]

/-- Plain characters are collected one after the other. -/
theorem foldl_step_plain {cs : List Char} (hcs : ∀ c ∈ cs, IsPlain delimiter c)
    (hstage : stage ≠ .quoted) :
    cs.foldl (step delimiter) ⟨rows, cells, cell, stage⟩ =
      ⟨rows, cells, cs.reverse ++ cell, if cs = [] then stage else .bare⟩ := by
  induction cs generalizing cell stage with
  | nil => rfl
  | cons c rest ih =>
    have hrest : ∀ x ∈ rest, IsPlain delimiter x := fun x hx => hcs x (List.mem_cons_of_mem c hx)
    rw [List.foldl_cons, step_plain (hcs c List.mem_cons_self) hstage, ih hrest (by decide),
      List.reverse_cons, List.append_assoc, if_neg (List.cons_ne_nil c rest)]
    cases rest <;> rfl

/-- Between quotes every character is collected, a doubled quote as one. -/
theorem foldl_step_doubled (cs : List Char) :
    (cs.flatMap doubleQuote).foldl (step delimiter) ⟨rows, cells, cell, .quoted⟩ =
      ⟨rows, cells, cs.reverse ++ cell, .quoted⟩ := by
  induction cs generalizing cell with
  | nil => rfl
  | cons c rest ih =>
    have hstep : (doubleQuote c).foldl (step delimiter) ⟨rows, cells, cell, .quoted⟩ =
        ⟨rows, cells, c :: cell, .quoted⟩ := by
      by_cases hc : c = '"'
      · subst hc
        rfl
      · simp [doubleQuote, step, add, hc]
    rw [List.flatMap_cons, List.foldl_append, hstep, ih, List.reverse_cons, List.append_assoc]
    rfl

end Reading

namespace WrittenCell

variable {delimiter : Char}

/-- Where the reader stands behind a written cell, from where it stood before. -/
def stageBehind (cell : WrittenCell delimiter) (stage : Stage) : Stage :=
  if cell.quoted then .quoteSeen else if cell.text.toList = [] then stage else .bare

/-- Behind a cell no quote is open. -/
theorem stageBehind_ne_quoted (cell : WrittenCell delimiter) {stage : Stage}
    (h : stage ≠ .quoted) : cell.stageBehind stage ≠ .quoted := by
  unfold stageBehind
  split
  · exact Stage.noConfusion
  · split
    · exact h
    · exact Stage.noConfusion

/-- The reader stays before a row only over a first cell that is written as nothing. -/
theorem stageBehind_eq_rowStart_iff (cell : WrittenCell delimiter) (stage : Stage) :
    cell.stageBehind stage = .rowStart ↔ stage = .rowStart ∧ cell.isNothing = true := by
  unfold stageBehind isNothing
  cases cell.quoted with
  | true => simp
  | false =>
    by_cases hempty : cell.text.toList = []
    · simp [String.toList_eq_nil_iff.mp hempty]
    · have htext : cell.text ≠ "" := fun heq => hempty (String.toList_eq_nil_iff.mpr heq)
      simp [hempty, htext]

end WrittenCell

namespace Reading

variable {delimiter : Char}

/-- Through a written cell the reader collects what the cell says. -/
theorem foldl_step_cell (written : WrittenCell delimiter) (rows : List (List String))
    (cells : List String) {stage : Stage} (hstage : stage = .rowStart ∨ stage = .cellStart) :
    written.chars.foldl (step delimiter) ⟨rows, cells, [], stage⟩ =
      ⟨rows, cells, written.text.toList.reverse, written.stageBehind stage⟩ := by
  unfold WrittenCell.chars WrittenCell.stageBehind
  cases hquoted : written.quoted with
  | true =>
    rw [if_pos rfl, if_pos rfl, List.foldl_cons, step_openQuote hstage, List.foldl_append,
      foldl_step_doubled, List.append_nil]
    rfl
  | false =>
    have hopen : stage ≠ .quoted := by
      rcases hstage with rfl | rfl <;> exact Stage.noConfusion
    rw [if_neg Bool.false_ne_true, if_neg Bool.false_ne_true,
      foldl_step_plain (written.plain hquoted) hopen, List.append_nil]

/-- The cells of the row so far, the open one included. -/
def openRow (reading : Reading) : List String :=
  (String.ofList reading.cell.reverse :: reading.cells).reverse

/-- The reader has gone through the texts of a row up to the end of a cell; `untouched` tells that
no character of the row has been seen. -/
structure BehindCell (reading : Reading) (rows : List (List String)) (texts : List String)
    (untouched : Bool) : Prop where
  /-- The rows before are complete. -/
  rows_eq : reading.rows = rows
  /-- The texts of the row's cells are collected. -/
  openRow_eq : reading.openRow = texts
  /-- No quote is open. -/
  stage_ne : reading.stage ≠ .quoted
  /-- The reader still stands before the row exactly if it has seen nothing of it. -/
  rowStart_iff : reading.stage = .rowStart ↔ untouched = true

/-- Through the first cell of a row the reader gets behind it. -/
theorem behindCell_first (written : WrittenCell delimiter) (rows : List (List String)) :
    BehindCell (written.chars.foldl (step delimiter) { rows }) rows [written.text]
      written.isNothing := by
  rw [foldl_step_cell written rows [] (Or.inl rfl)]
  refine ⟨rfl, ?_, written.stageBehind_ne_quoted Stage.noConfusion, ?_⟩
  · rw [openRow, List.reverse_reverse, String.ofList_toList]
    rfl
  · rw [written.stageBehind_eq_rowStart_iff]
    exact and_iff_right rfl

/-- Over a delimiter and through a cell the reader gets behind the next cell. -/
theorem BehindCell.next {reading : Reading} {rows : List (List String)} {texts : List String}
    {untouched : Bool} (h : BehindCell reading rows texts untouched) (hd : IsDelimiter delimiter)
    (written : WrittenCell delimiter) :
    BehindCell ((delimiter :: written.chars).foldl (step delimiter) reading) rows
      (texts ++ [written.text]) false := by
  obtain ⟨rowsRead, cells, cell, stage⟩ := reading
  rw [List.foldl_cons, step_delimiter hd h.stage_ne, foldl_step_cell written _ _ (Or.inr rfl)]
  refine ⟨h.rows_eq, ?_, written.stageBehind_ne_quoted Stage.noConfusion, ?_⟩
  · rw [← h.openRow_eq, openRow, openRow, List.reverse_reverse, String.ofList_toList,
      List.reverse_cons]
  · rw [written.stageBehind_eq_rowStart_iff]
    exact ⟨fun hs => Stage.noConfusion hs.1, fun hs => absurd hs Bool.false_ne_true⟩

/-- Through all further cells of a row the reader collects their texts. -/
theorem BehindCell.others {reading : Reading} {rows : List (List String)} {texts : List String}
    {untouched : Bool} (h : BehindCell reading rows texts untouched) (hd : IsDelimiter delimiter)
    (others : List (WrittenCell delimiter)) :
    BehindCell ((others.flatMap fun cell => delimiter :: cell.chars).foldl (step delimiter) reading)
      rows (texts ++ others.map (·.text)) (others.isEmpty && untouched) := by
  induction others generalizing reading texts untouched with
  | nil =>
    rw [List.map_nil, List.append_nil]
    exact h
  | cons written rest ih =>
    rw [List.flatMap_cons, List.foldl_append, List.map_cons, List.append_cons]
    have hrest := ih (h.next hd written)
    rwa [Bool.and_false] at hrest

end Reading

namespace WrittenRow

variable {delimiter : Char}

/-- The rows that a reader makes of a written row: none when the row is written as nothing. -/
def seen (row : WrittenRow delimiter) : List (List String) :=
  if row.isNothing then [] else [row.texts]

/-- At most one row is seen, so its order cannot change. -/
theorem reverse_seen (row : WrittenRow delimiter) : row.seen.reverse = row.seen := by
  unfold seen
  split <;> rfl

/-- A row that is not seen would be blank. -/
theorem filter_seen (row : WrittenRow delimiter) :
    row.seen.filter (!isBlankRow ·) = [row.texts].filter (!isBlankRow ·) := by
  unfold seen
  cases hnothing : row.isNothing with
  | true =>
    rw [if_pos rfl, texts_of_isNothing hnothing]
    rfl
  | false => rw [if_neg Bool.false_ne_true]

/-- No cell that is seen is too long. -/
theorem length_of_mem_seen {row : WrittenRow delimiter} {texts : List String} {text : String}
    (htexts : texts ∈ row.seen) (htext : text ∈ texts) : text.length ≤ cellLimit := by
  unfold seen at htexts
  split at htexts
  · cases htexts
  · rw [List.mem_singleton.mp htexts] at htext
    obtain ⟨cell, -, rfl⟩ := List.mem_map.mp htext
    exact cell.short

end WrittenRow

namespace Reading

variable {delimiter : Char}

/-- Through a written row the reader gets behind its last cell. -/
theorem behindCell_line (hd : IsDelimiter delimiter) (row : WrittenRow delimiter)
    (rows : List (List String)) :
    BehindCell (row.line.foldl (step delimiter) { rows }) rows row.texts row.isNothing := by
  have h := (behindCell_first row.first rows).others hd row.others
  rwa [← List.foldl_append] at h

/-- A row that has ended is among the complete ones, unless it was written as nothing. -/
theorem BehindCell.closed_eq {reading : Reading} {rows : List (List String)}
    {row : WrittenRow delimiter} (h : BehindCell reading rows row.texts row.isNothing) :
    reading.closed = { rows := row.seen ++ rows } := by
  obtain ⟨rowsRead, cells, cell, stage⟩ := reading
  have hrows : rowsRead = rows := h.rows_eq
  have hopen : (String.ofList cell.reverse :: cells).reverse = row.texts := h.openRow_eq
  unfold closed WrittenRow.seen
  dsimp only
  by_cases hstart : stage = .rowStart
  · have hnothing := h.rowStart_iff.mp hstart
    rw [WrittenRow.texts_of_isNothing hnothing, List.reverse_eq_iff, List.reverse_singleton,
      List.cons.injEq] at hopen
    have hcell : cell = [] := by
      have hchars := congrArg String.toList hopen.1
      rwa [String.toList_ofList, String.toList_empty, List.reverse_eq_nil_iff] at hchars
    rw [if_pos hstart, hnothing, hrows, hopen.2, hcell, hstart]
    rfl
  · have hsome : row.isNothing = false := Bool.eq_false_iff.mpr (hstart ∘ h.rowStart_iff.mpr)
    rw [if_neg hstart, hsome, endRow, hopen, hrows]
    rfl

/-- Behind the end of a row the reader stands before the next one, whichever end it is. -/
theorem BehindCell.rowEnd {reading : Reading} {rows : List (List String)}
    {row : WrittenRow delimiter} (h : BehindCell reading rows row.texts row.isNothing)
    (hd : IsDelimiter delimiter) (ending : RowEnd) :
    ending.chars.foldl (step delimiter) reading = { rows := row.seen ++ rows } := by
  have hclosed : ∀ c, isLineEnd c = true →
      step delimiter reading c = { rows := row.seen ++ rows } := by
    intro c hc
    rw [step_rowEnd hc hd h.stage_ne]
    exact h.closed_eq
  cases ending with
  | lineFeed => exact hclosed '\n' rfl
  | carriageReturn => exact hclosed '\r' rfl
  | both =>
    rw [RowEnd.chars, List.foldl_cons, hclosed '\r' rfl]
    rfl

/-- Through rows that have an end the reader collects them in order. -/
theorem foldl_step_ended (hd : IsDelimiter delimiter)
    (ended : List (WrittenRow delimiter × RowEnd)) (rows : List (List String)) :
    (ended.flatMap fun row => row.1.line ++ row.2.chars).foldl (step delimiter) { rows } =
      { rows := (ended.flatMap (·.1.seen)).reverse ++ rows } := by
  induction ended generalizing rows with
  | nil => rfl
  | cons row rest ih =>
    rw [List.flatMap_cons, List.foldl_append, List.foldl_append,
      (behindCell_line hd row.1 rows).rowEnd hd, ih, List.flatMap_cons, List.reverse_append,
      row.1.reverse_seen, List.append_assoc]

/-- The rows at the end of the text are those of the reading that is closed there. -/
theorem finish_eq (reading : Reading) : reading.finish = reading.closed.rows.reverse := by
  obtain ⟨rows, cells, cell, stage⟩ := reading
  cases stage <;> rfl

end Reading

variable {delimiter : Char}

/-- A reader makes of a written table the rows of it that are not written as nothing. -/
theorem allRows_body (hd : IsDelimiter delimiter) (table : WrittenTable delimiter) :
    allRows delimiter table.body = table.rows.flatMap (·.seen) := by
  unfold allRows WrittenTable.body WrittenTable.rows
  rw [List.foldl_append, Reading.foldl_step_ended hd, Reading.finish_eq, List.append_nil,
    List.flatMap_append, List.flatMap_map]
  cases table.last with
  | none =>
    rw [Option.toList_none, List.flatMap_nil, List.flatMap_nil, List.append_nil, List.foldl_nil]
    exact List.reverse_reverse _
  | some row =>
    rw [Option.toList_some, List.flatMap_singleton, List.flatMap_singleton,
      (Reading.behindCell_line hd row _).closed_eq, List.reverse_append, List.reverse_reverse,
      row.reverse_seen]

/-- Reading a written table with its delimiter gives its rows, all but the blank ones. -/
theorem rowsWith?_text (hd : IsDelimiter delimiter) (table : WrittenTable delimiter)
    (hmark : table.MarkIsClear) :
    rowsWith? delimiter table.text =
      some ((table.rows.map (·.texts)).filter (!isBlankRow ·)) := by
  have hshort : ((table.rows.flatMap (·.seen)).any fun row =>
      row.any fun cell => decide (cellLimit < cell.length)) = false := by
    rw [List.any_eq_false]
    intro texts htexts
    obtain ⟨row, -, hseen⟩ := List.mem_flatMap.mp htexts
    rw [Bool.not_eq_true, List.any_eq_false]
    intro text htext
    rw [decide_eq_true_iff]
    exact Nat.not_lt.mpr (WrittenRow.length_of_mem_seen hseen htext)
  have hkept : (table.rows.flatMap (·.seen)).filter (!isBlankRow ·) =
      (table.rows.map (·.texts)).filter (!isBlankRow ·) := by
    rw [List.map_eq_flatMap, List.filter_flatMap, List.filter_flatMap]
    exact congrArg (table.rows.flatMap ·) (funext WrittenRow.filter_seen)
  unfold rowsWith?
  rw [table.withoutMark_text hmark, allRows_body hd table]
  dsimp only
  rw [hshort, if_neg Bool.false_ne_true, hkept]

end DistrictAtlas.Table
