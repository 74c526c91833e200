import DistrictAtlas.Proofs.Table.Reading

/-!
# Finding the delimiter of a written table

The search for the first logical line and the count of the candidates on it are both followed through
a written row. Quotes of a written cell come in pairs around its text, so no line end in a cell can
end the line and no candidate in a quoted cell is counted: the line is the first row, and the counts
are those of its bare cells with the delimiters between all cells.
-/

namespace DistrictAtlas.Table

variable {delimiter : Char}

/-- How the search for the first line goes through characters that cannot end it. -/
def Unbroken (cs : List Char) : Prop :=
  ∀ line, cs.foldl LineSearch.step ⟨false, line, false⟩ = ⟨false, cs.reverse ++ line, false⟩

/-- Two stretches that cannot end the line cannot end it together. -/
theorem Unbroken.append {first second : List Char} (hfirst : Unbroken first)
    (hsecond : Unbroken second) : Unbroken (first ++ second) := by
  intro line
  rw [List.foldl_append, hfirst, hsecond, List.reverse_append, List.append_assoc]

/-- Characters that are no quotes and no line ends cannot end the line. -/
theorem unbroken_of_plain {cs : List Char} (h : ∀ c ∈ cs, c ≠ '"' ∧ isLineEnd c = false) :
    Unbroken cs := by
  induction cs with
  | nil => intro line; rfl
  | cons c rest ih =>
    intro line
    obtain ⟨hq, hend⟩ := h c List.mem_cons_self
    have hstep : LineSearch.step ⟨false, line, false⟩ c = ⟨false, c :: line, false⟩ := by
      simp [LineSearch.step, hq, hend]
    rw [List.foldl_cons, hstep, ih (fun x hx => h x (List.mem_cons_of_mem c hx)), List.reverse_cons,
      List.append_assoc]
    rfl

/-- Between quotes every character belongs to the line, and a doubled quote leaves the quote open. -/
theorem foldl_lineSearch_doubled (cs line : List Char) :
    (cs.flatMap doubleQuote).foldl LineSearch.step ⟨true, line, false⟩ =
      ⟨true, (cs.flatMap doubleQuote).reverse ++ line, false⟩ := by
  induction cs generalizing line with
  | nil => rfl
  | cons c rest ih =>
    have hstep : (doubleQuote c).foldl LineSearch.step ⟨true, line, false⟩ =
        ⟨true, (doubleQuote c).reverse ++ line, false⟩ := by
      by_cases hc : c = '"'
      · subst hc
        rfl
      · simp [doubleQuote, LineSearch.step, hc]
    rw [List.flatMap_cons, List.foldl_append, hstep, ih, List.reverse_append, List.append_assoc]

/-- A written cell cannot end the line. -/
theorem WrittenCell.unbroken (cell : WrittenCell delimiter) : Unbroken cell.chars := by
  unfold WrittenCell.chars
  cases hquoted : cell.quoted with
  | true =>
    intro line
    have hopen : LineSearch.step ⟨false, line, false⟩ '"' = ⟨true, '"' :: line, false⟩ := rfl
    rw [if_pos rfl, List.foldl_cons, hopen, List.foldl_append, foldl_lineSearch_doubled]
    simp [LineSearch.step]
  | false =>
    rw [if_neg Bool.false_ne_true]
    exact unbroken_of_plain fun c hc => (cell.plain hquoted c hc).2

/-- A written row cannot end the line. -/
theorem WrittenRow.unbroken (hd : IsDelimiter delimiter) (row : WrittenRow delimiter) :
    Unbroken row.line := by
  have hothers : ∀ others : List (WrittenCell delimiter),
      Unbroken (others.flatMap fun cell => delimiter :: cell.chars) := by
    intro others
    induction others with
    | nil => intro line; rfl
    | cons cell rest ih =>
      have hmark : Unbroken [delimiter] := unbroken_of_plain fun c hc => by
        rw [List.mem_singleton.mp hc]
        exact ⟨hd.notQuote, hd.notEnd⟩
      rw [List.flatMap_cons]
      exact (hmark.append cell.unbroken).append ih
  exact row.first.unbroken.append (hothers row.others)

/-- Once the line has ended nothing changes any more. -/
theorem foldl_lineSearch_ended (cs : List Char) {search : LineSearch} (h : search.ended = true) :
    cs.foldl LineSearch.step search = search := by
  induction cs with
  | nil => rfl
  | cons c rest ih =>
    have hstep : search.step c = search := by
      unfold LineSearch.step
      rw [if_pos h]
    rw [List.foldl_cons, hstep, ih]

/-- The first line that is not blank is the first row when this is not blank. -/
theorem headLine_body (hd : IsDelimiter delimiter) {table : WrittenTable delimiter}
    {row : WrittenRow delimiter} (hfirst : table.rows.head? = some row)
    (hblank : isBlankRow row.texts = false) : headLine table.body = row.line := by
  have hline : row.line.foldl LineSearch.step {} = ⟨false, row.line.reverse, false⟩ := by
    have h := row.unbroken hd []
    rwa [List.append_nil] at h
  unfold headLine
  rcases table.body_of_head hfirst with hbody | ⟨c, rest, hc, hbody⟩
  · rw [hbody, hline, List.reverse_reverse]
  · have hsome : row.line.reverse.all Text.isBlank = false := by
      rw [List.all_reverse, Bool.eq_false_iff]
      intro hall
      rw [WrittenRow.isBlankRow_texts hall] at hblank
      exact Bool.false_ne_true hblank.symm
    have hq := ne_quote_of_isLineEnd hc
    have hend : LineSearch.step ⟨false, row.line.reverse, false⟩ c =
        ⟨false, row.line.reverse, true⟩ := by
      simp [LineSearch.step, hq, hc, hsome]
    rw [hbody, List.foldl_append, hline, List.foldl_cons, hend, foldl_lineSearch_ended rest rfl,
      List.reverse_reverse]

/-- The count of a candidate. -/
def Tally.count (tally : Tally) (c : Char) : Nat :=
  if c = ',' then tally.commas else if c = ';' then tally.semicolons
  else if c = '\t' then tally.tabs else 0

/-- How counting goes through characters that leave no quote open: the count of each candidate grows
by the given number. -/
def Counts (cs : List Char) (number : Char → Nat) : Prop :=
  ∀ tally : Tally, tally.quoted = false → (cs.foldl Tally.step tally).quoted = false ∧
    ∀ c ∈ candidates, (cs.foldl Tally.step tally).count c = tally.count c + number c

/-- The counts of two stretches are added. -/
theorem Counts.append {first second : List Char} {m n : Char → Nat} (hfirst : Counts first m)
    (hsecond : Counts second n) : Counts (first ++ second) fun c => m c + n c := by
  intro tally hquoted
  obtain ⟨hopen, hcount⟩ := hfirst tally hquoted
  obtain ⟨hopen', hcount'⟩ := hsecond _ hopen
  rw [List.foldl_append]
  refine ⟨hopen', fun c hc => ?_⟩
  rw [hcount' c hc, hcount c hc, Nat.add_assoc]

/-- A character other than a quote is counted once as itself. -/
theorem counts_singleton {x : Char} (hx : x ≠ '"') : Counts [x] fun c => if x = c then 1 else 0 := by
  intro tally hquoted
  rw [forall_candidates]
  simp only [List.foldl_cons, List.foldl_nil, Tally.step, if_neg hx, hquoted, Tally.count]
  by_cases hcomma : x = ','
  · subst hcomma
    simp
  by_cases hsemicolon : x = ';'
  · subst hsemicolon
    simp
  by_cases htab : x = '\t'
  · subst htab
    simp
  simp [hcomma, hsemicolon, htab, hquoted]

/-- Outside quotes every occurrence is counted. -/
theorem counts_of_plain {cs : List Char} (h : ∀ c ∈ cs, c ≠ '"') : Counts cs (cs.count ·) := by
  induction cs with
  | nil => exact fun tally hquoted => ⟨hquoted, fun c _ => rfl⟩
  | cons x rest ih =>
    have hx := counts_singleton (h x List.mem_cons_self)
    have hrest := ih fun c hc => h c (List.mem_cons_of_mem x hc)
    have hnumber : (fun c => (if x = c then 1 else 0) + rest.count c) = ((x :: rest).count ·) := by
      funext c
      rw [List.count_cons, Nat.add_comm]
      simp only [beq_iff_eq]
    rw [← hnumber]
    exact hx.append hrest

/-- Between quotes nothing is counted. -/
theorem foldl_tally_doubled (cs : List Char) {tally : Tally} (h : tally.quoted = true) :
    (cs.flatMap doubleQuote).foldl Tally.step tally = tally := by
  induction cs with
  | nil => rfl
  | cons c rest ih =>
    have hstep : (doubleQuote c).foldl Tally.step tally = tally := by
      by_cases hc : c = '"'
      · subst hc
        simp [doubleQuote, Tally.step]
      · simp [doubleQuote, Tally.step, hc, h]
    rw [List.flatMap_cons, List.foldl_append, hstep, ih]

/-- A written cell counts with what it has outside quotes. -/
theorem WrittenCell.counts (cell : WrittenCell delimiter) :
    Counts cell.chars (cell.bare.count ·) := by
  unfold WrittenCell.chars WrittenCell.bare
  cases hquoted : cell.quoted with
  | true =>
    intro tally hclosed
    have hback : (('"' :: (cell.text.toList.flatMap doubleQuote ++ ['"'])).foldl Tally.step tally) =
        tally := by
      rw [List.foldl_cons, List.foldl_append, foldl_tally_doubled]
      · simp [Tally.step]
      · simp [Tally.step, hclosed]
    rw [if_pos rfl, hback]
    exact ⟨hclosed, fun c _ => (Nat.add_zero _).symm⟩
  | false =>
    rw [if_neg Bool.false_ne_true, if_neg Bool.false_ne_true]
    exact counts_of_plain fun c hc => (cell.plain hquoted c hc).2.1

/-- Cells behind delimiters count with what they have outside quotes, and each delimiter counts. -/
theorem counts_others (hd : IsDelimiter delimiter) (others : List (WrittenCell delimiter)) :
    Counts (others.flatMap fun cell => delimiter :: cell.chars) fun c =>
      (others.flatMap (·.bare)).count c + if delimiter = c then others.length else 0 := by
  induction others with
  | nil =>
    intro tally hquoted
    refine ⟨hquoted, fun c _ => ?_⟩
    dsimp only
    rw [List.flatMap_nil, List.flatMap_nil, List.count_nil, List.length_nil, ite_self]
    rfl
  | cons cell rest ih =>
    have hcell := ((counts_singleton hd.notQuote).append cell.counts).append ih
    have hnumber : (fun c => ((cell :: rest).flatMap (·.bare)).count c +
          if delimiter = c then (cell :: rest).length else 0) =
        fun c => (if delimiter = c then 1 else 0) + cell.bare.count c +
          ((rest.flatMap (·.bare)).count c + if delimiter = c then rest.length else 0) := by
      funext c
      rw [List.flatMap_cons, List.count_append, List.length_cons]
      split <;> omega
    rw [hnumber, List.flatMap_cons]
    exact hcell

/-- A written row counts with its bare cells and with the delimiters between all cells. -/
theorem WrittenRow.counts (hd : IsDelimiter delimiter) (row : WrittenRow delimiter) :
    Counts row.line fun c =>
      row.bare.count c + if delimiter = c then row.others.length else 0 := by
  have hnumber : (fun c => row.bare.count c + if delimiter = c then row.others.length else 0) =
      fun c => row.first.bare.count c + ((row.others.flatMap (·.bare)).count c +
        if delimiter = c then row.others.length else 0) := by
    funext c
    rw [WrittenRow.bare, WrittenRow.cells, List.flatMap_cons, List.count_append, Nat.add_assoc]
  rw [hnumber]
  exact row.first.counts.append (counts_others hd row.others)

/-- A candidate that is counted strictly more often than every other one wins. -/
theorem Tally.winner_of_lead {tally : Tally} (hd : delimiter ∈ candidates)
    (h : ∀ c ∈ candidates, c ≠ delimiter → tally.count c < tally.count delimiter) :
    tally.winner = delimiter := by
  obtain ⟨hcomma, hsemicolon, htab⟩ := forall_candidates.mp h
  unfold Tally.winner
  rcases List.mem_cons.mp hd with rfl | hd
  · have hs := hsemicolon (by decide)
    have ht := htab (by decide)
    simp only [Tally.count, Char.reduceEq, reduceIte] at hs ht
    rw [if_neg (by omega), if_neg (by omega)]
  · rcases List.mem_cons.mp hd with rfl | hd
    · have hc := hcomma (by decide)
      have ht := htab (by decide)
      simp only [Tally.count, Char.reduceEq, reduceIte] at hc ht
      rw [if_pos (by omega), if_neg (by omega)]
    · rw [List.mem_singleton] at hd
      subst hd
      have hc := hcomma (by decide)
      have hs := hsemicolon (by decide)
      simp only [Tally.count, Char.reduceEq, reduceIte] at hc hs
      by_cases hlead : tally.commas < tally.semicolons
      · rw [if_pos hlead, if_pos hs]
      · rw [if_neg hlead, if_pos hc]

/-- The delimiter of a written table is found from its first row, when this is not blank and has more
delimiters between its cells than bare occurrences of any other candidate. -/
theorem delimiter_text (hd : delimiter ∈ candidates) {table : WrittenTable delimiter}
    (hmark : table.MarkIsClear) {row : WrittenRow delimiter}
    (hfirst : table.rows.head? = some row) (hblank : isBlankRow row.texts = false)
    (hlead : ∀ c ∈ candidates, c ≠ delimiter → row.bare.count c < row.others.length) :
    Table.delimiter table.text = delimiter := by
  have hcounts := (row.counts (isDelimiter_of_mem hd) {} rfl).2
  have hzero : ∀ c, Tally.count {} c = 0 := by
    intro c
    simp only [Tally.count, ite_self]
  have hown := hcounts delimiter hd
  dsimp only at hown
  rw [hzero, if_pos rfl] at hown
  unfold Table.delimiter delimiterOf
  rw [table.withoutMark_text hmark, headLine_body (isDelimiter_of_mem hd) hfirst hblank]
  refine Tally.winner_of_lead hd fun c hc hne => ?_
  have hother := hcounts c hc
  dsimp only at hother
  rw [hzero, if_neg hne.symm] at hother
  have hless := hlead c hc hne
  omega

end DistrictAtlas.Table
