import DistrictAtlas.Proofs.Table.Sniffing

/-!
# Logical lines

A text falls into logical lines at the line ends outside quotes, where a quote is open behind an odd
number of quote characters. The search for the line that decides on a delimiter, which goes through
the text once and throws blank lines away, finds the first logical line that is not blank; where all
are blank it keeps the last one. Counting on a line counts what it has outside quotes.
-/

namespace DistrictAtlas.Table

/-- The logical lines of the characters; `quoted` tells whether a quote is open in front of them. -/
def logicalLines (quoted : Bool) : List Char → List (List Char)
  | [] => [[]]
  | c :: rest =>
    if isLineEnd c && !quoted then [] :: logicalLines false rest
    else (logicalLines (if c = '"' then !quoted else quoted) rest).modifyHead (c :: ·)

/-- The characters outside quotes, the quotes themselves left out. -/
def outsideQuotes (quoted : Bool) : List Char → List Char
  | [] => []
  | c :: rest =>
    if c = '"' then outsideQuotes (!quoted) rest
    else if quoted then outsideQuotes quoted rest
    else c :: outsideQuotes quoted rest

/-- The first logical line that has more than blanks in it. -/
def firstLine? (cs : List Char) : Option (List Char) :=
  (logicalLines false cs).find? fun line => !line.all Text.isBlank

/-- The last logical line. -/
def lastLine (cs : List Char) : List Char :=
  (logicalLines false cs).getLastD []

/-- There is always a logical line, be it an empty one. -/
theorem logicalLines_ne_nil (quoted : Bool) (cs : List Char) : logicalLines quoted cs ≠ [] := by
  induction cs generalizing quoted with
  | nil => simp [logicalLines]
  | cons c rest ih =>
    rw [logicalLines]
    split
    · simp
    · simpa using ih _

/-- Where no line ends the character joins the open line, and a quote changes what is open. -/
theorem step_of_open {quoted : Bool} {line : List Char} {c : Char}
    (h : (isLineEnd c && !quoted) = false) :
    LineSearch.step ⟨quoted, line, false⟩ c =
      ⟨if c = '"' then !quoted else quoted, c :: line, false⟩ := by
  by_cases hq : c = '"'
  · simp [LineSearch.step, hq]
  · simp [LineSearch.step, hq, h]

/-- From any point of the search on, where the characters of the open line have been seen, it finds
the first logical line that is not blank, the open line being the beginning of the first one. -/
theorem reverse_line_foldl_step (cs line : List Char) (quoted : Bool) :
    (cs.foldl LineSearch.step ⟨quoted, line, false⟩).line.reverse =
      (((logicalLines quoted cs).modifyHead (line.reverse ++ ·)).find?
        fun line => !line.all Text.isBlank).getD
        (((logicalLines quoted cs).modifyHead (line.reverse ++ ·)).getLastD []) := by
  induction cs generalizing line quoted with
  | nil =>
    rw [logicalLines, List.modifyHead_cons, List.append_nil, List.find?_cons, List.foldl_nil]
    cases line.reverse.all Text.isBlank <;> rfl
  | cons c rest ih =>
    rw [List.foldl_cons, logicalLines]
    cases hends : isLineEnd c && !quoted with
    | false =>
      have hnext := ih (c :: line) (if c = '"' then !quoted else quoted)
      rw [List.reverse_cons] at hnext
      rw [step_of_open hends, hnext, if_neg Bool.false_ne_true, List.modifyHead_modifyHead]
      simp only [Function.comp_def, List.append_assoc, List.singleton_append]
    | true =>
      obtain ⟨hend, hopen⟩ := Bool.and_eq_true_iff.mp hends
      have hq := ne_quote_of_isLineEnd hend
      have hlines : ∀ lines : List (List Char), lines.modifyHead ([] ++ ·) = lines := by
        intro lines
        cases lines <;> rfl
      obtain ⟨first, others, hlater⟩ := List.exists_cons_of_ne_nil (logicalLines_ne_nil false rest)
      rw [if_pos rfl, List.modifyHead_cons, List.append_nil, List.find?_cons, List.all_reverse]
      cases hblank : line.all Text.isBlank with
      | true =>
        have hstep : LineSearch.step ⟨quoted, line, false⟩ c = ⟨quoted, [], false⟩ := by
          simp [LineSearch.step, hq, hends, hblank]
        have hclosed : quoted = false := by simpa using hopen
        have hnext := ih [] quoted
        rw [List.reverse_nil, hlines, hclosed] at hnext
        rw [hstep, hclosed, hnext, hlater]
        simp
      | false =>
        have hstep : LineSearch.step ⟨quoted, line, false⟩ c = ⟨quoted, line, true⟩ := by
          simp [LineSearch.step, hq, hends, hblank]
        rw [hstep, foldl_lineSearch_ended rest rfl]
        simp

/-- The search finds the first logical line that is not blank, and without one the last line. -/
theorem headLine_eq (cs : List Char) : headLine cs = (firstLine? cs).getD (lastLine cs) := by
  obtain ⟨first, others, hlines⟩ := List.exists_cons_of_ne_nil (logicalLines_ne_nil false cs)
  have h := reverse_line_foldl_step cs [] false
  rw [hlines, List.reverse_nil, List.modifyHead_cons, List.nil_append] at h
  rw [headLine, firstLine?, lastLine, hlines]
  exact h

/-- Counting adds to the count of each candidate its occurrences outside quotes. -/
theorem count_foldl_step (cs : List Char) (tally : Tally) {c : Char} (hc : c ∈ candidates) :
    (cs.foldl Tally.step tally).count c =
      tally.count c + (outsideQuotes tally.quoted cs).count c := by
  induction cs generalizing tally with
  | nil => rfl
  | cons x rest ih =>
    rw [List.foldl_cons, ih, outsideQuotes]
    by_cases hq : x = '"'
    · have hstep : tally.step x = { tally with quoted := !tally.quoted } := if_pos hq
      rw [hstep, if_pos hq]
      rfl
    · rw [if_neg hq]
      cases hopen : tally.quoted with
      | true =>
        have hstep : tally.step x = tally := by simp [Tally.step, hq, hopen]
        rw [hstep, hopen, if_pos rfl]
      | false =>
        obtain ⟨hclosed, hcount⟩ := counts_singleton hq tally hopen
        have hone := hcount c hc
        rw [List.foldl_cons, List.foldl_nil] at hclosed hone
        dsimp only at hone
        rw [hclosed, hone, if_neg Bool.false_ne_true, List.count_cons]
        simp only [beq_iff_eq]
        omega

end DistrictAtlas.Table
