import DistrictAtlas.Proofs.Table.Stretches

/-!
# The delimiter is taken from the header row

The search for a delimiter and the reader go through a text independently of each other, and they
differ about quotes: for the search every quote opens or closes, for the reader a quote in a bare cell
is a character like any other. Where they agree about the line ends of the decisive line, this line
read by itself gives the header row, or nothing if all its cells are blank. They agree in particular
when no quote stands in a bare cell of the line.
-/

namespace DistrictAtlas.Table

/-- The search for the decisive line of a text. -/
def headSearch (text : String) : LineSearch :=
  (withoutMark text.toList).foldl LineSearch.step {}

/-- The decisive line of a text: the first logical line that is not blank. -/
def headText (text : String) : String :=
  String.ofList (headLine (withoutMark text.toList))

/-- The reader finds between quotes the line ends in the decisive line, and not the one behind it. -/
structure BreaksAgree (text : String) : Prop where
  /-- A line end in the line is between quotes for the reader too. -/
  inside : ∀ place c, (headText text).toList[place]? = some c → isLineEnd c = true →
    stageBehind (delimiter text) ((headText text).toList.take place) = .quoted
  /-- The line end behind the line is outside quotes for the reader too. -/
  behind : (headSearch text).ended = true →
    stageBehind (delimiter text) (headText text).toList ≠ .quoted

/-- No quote of the decisive line stands in a bare cell, or behind the closing quote of a cell. -/
def NoStrayQuote (text : String) : Prop :=
  ∀ place < (headText text).toList.length, (headText text).toList[place]? = some '"' →
    stageBehind (delimiter text) ((headText text).toList.take place) ≠ .bare

instance (text : String) : Decidable (NoStrayQuote text) :=
  inferInstanceAs (Decidable (∀ place < (headText text).toList.length,
    (headText text).toList[place]? = some '"' →
      stageBehind (delimiter text) ((headText text).toList.take place) ≠ .bare))

/-- The characters of the text in front of the data rows are those that the search took, in their
order. -/
theorem toList_headText (text : String) :
    (headText text).toList = (headSearch text).line.reverse := by
  rw [headText, String.toList_ofList]
  rfl

/-- Through characters without a quote in a bare cell, a quote is open for the reader exactly behind
an odd number of quotes. -/
theorem stageBehind_eq_quoted_iff {delimiter : Char} {cs : List Char}
    (h : ∀ place c, cs[place]? = some c → c = '"' →
      stageBehind delimiter (cs.take place) ≠ .bare) :
    stageBehind delimiter cs = .quoted ↔ LeavesOpen cs := by
  induction cs using List.reverseRecOn with
  | nil => simp [stageBehind, LeavesOpen]
  | append_singleton cs c ih =>
    obtain ⟨hfront, hlast⟩ := (forall_places_concat
      (p := fun front c => c = '"' → stageBehind delimiter front ≠ .bare) cs c).mp h
    have hstep : stageBehind delimiter (cs ++ [c]) =
        (Reading.step delimiter (cs.foldl (Reading.step delimiter) {}) c).stage := by
      rw [stageBehind, List.foldl_append, List.foldl_cons, List.foldl_nil]
    rw [hstep]
    by_cases hq : c = '"'
    · rw [hq, leavesOpen_concat_quote, Reading.stage_step_quote (hlast hq), ← ih hfront]
      rfl
    · rw [leavesOpen_concat hq, Reading.stage_step_eq_quoted_iff hq, ← ih hfront]
      rfl

/-- Without a quote in a bare cell the search and the reader agree about the line ends. -/
theorem NoStrayQuote.breaksAgree {text : String} (h : NoStrayQuote text) : BreaksAgree text := by
  obtain ⟨before, behind, hknows⟩ := LineSearch.exists_knows (withoutMark text.toList)
  have hline := toList_headText text
  have hquote : ∀ place c, (headText text).toList[place]? = some c → c = '"' →
      stageBehind (delimiter text) ((headText text).toList.take place) ≠ .bare := by
    intro place c hc hq
    obtain ⟨hlt, -⟩ := List.getElem?_eq_some_iff.mp hc
    exact h place hlt (by rw [hc, hq])
  constructor
  · intro place c hc hend
    have hfront := forall_places_take
      (p := fun front c => c = '"' → stageBehind (delimiter text) front ≠ .bare) hquote place
    rw [stageBehind_eq_quoted_iff hfront]
    rw [hline] at hc ⊢
    exact hknows.ends_quoted place c hc hend
  · intro hended hquoted
    have hopen := (stageBehind_eq_quoted_iff hquote).mp hquoted
    rw [hline] at hopen
    have hclosed := (hknows.behind_end hended).1
    rw [hknows.quoted_iff.mpr hopen] at hclosed
    exact Bool.noConfusion hclosed

/-- The delimiter of a text is one of the candidates. -/
theorem delimiter_mem (text : String) : delimiter text ∈ candidates := by
  unfold delimiter delimiterOf Tally.winner
  split <;> split <;> decide

/-- Where search and reader agree, the rows of a text are those of its decisive line, with blank rows
in front of them and others behind. -/
theorem BreaksAgree.allRows_eq {text : String} (h : BreaksAgree text) :
    ∃ blank others, (∀ row ∈ blank, isBlankRow row = true) ∧
      allRows (delimiter text) (withoutMark text.toList) =
        blank ++ (allRows (delimiter text) (headText text).toList ++ others) := by
  have hd := isDelimiter_of_mem (delimiter_mem text)
  obtain ⟨before, behind, hknows⟩ := LineSearch.exists_knows (withoutMark text.toList)
  have hseen := hknows.seen_eq
  have hline : ((withoutMark text.toList).foldl LineSearch.step {}).line.reverse =
      (headText text).toList := (toList_headText text).symm
  rw [hline] at hseen
  obtain ⟨blank, hblank, hbefore⟩ := allRows_blankLines_append hd hknows.before_blank
    hknows.before_end ((headText text).toList ++ behind)
  have hrest : ∃ others, allRows (delimiter text) ((headText text).toList ++ behind) =
      allRows (delimiter text) (headText text).toList ++ others := by
    cases hended : ((withoutMark text.toList).foldl LineSearch.step {}).ended with
    | false => exact ⟨[], by rw [hknows.behind_nil hended, List.append_nil, List.append_nil]⟩
    | true =>
      obtain ⟨-, c, rest, hbehind, hc⟩ := hknows.behind_end hended
      rw [hbehind]
      exact ⟨_, allRows_append_lineEnd hd hc (h.behind hended) rest⟩
  obtain ⟨others, hothers⟩ := hrest
  refine ⟨blank, others, hblank, ?_⟩
  rw [← hothers, ← hbefore]
  exact congrArg (allRows (delimiter text)) hseen

/-- Found by itself, the decisive line has the delimiter of the text. -/
theorem delimiter_headText {text : String}
    (hmark : (headText text).toList.head? ≠ some byteOrderMark) :
    delimiter (headText text) = delimiter text := by
  obtain ⟨before, behind, hknows⟩ := LineSearch.exists_knows (withoutMark text.toList)
  have hfound : headLine (headText text).toList = headLine (withoutMark text.toList) := by
    rw [toList_headText]
    exact headLine_of_endsQuoted hknows.ends_quoted
  rw [delimiter, delimiterOf, withoutMark_of_head? hmark, hfound]
  rfl

/-- Where search and reader agree about the line ends of the decisive line, this line is read by
itself as the header row, that is, as the first row of the text; or its cells are all blank and it is
read as no row. It has the delimiter of the text whatever stands behind it. They agree when no quote
stands in a bare cell of the line. -/
theorem headText_read_as_header {text : String} {rows : List (List String)}
    (hread : rowsWith? (delimiter text) text = some rows)
    (hmark : (headText text).toList.head? ≠ some byteOrderMark) :
    (NoStrayQuote text → BreaksAgree text) ∧ delimiter (headText text) = delimiter text ∧
      (BreaksAgree text →
        (∃ row, rowsWith? (delimiter text) (headText text) = some [row] ∧ rows.head? = some row) ∨
          rowsWith? (delimiter text) (headText text) = some [] ∧
            ∀ row ∈ allRows (delimiter text) (headText text).toList, isBlankRow row = true) := by
  refine ⟨NoStrayQuote.breaksAgree, delimiter_headText hmark, fun hagree => ?_⟩
  obtain ⟨hshort, hrows⟩ := rowsWith?_eq_some_iff.mp hread
  obtain ⟨blank, others, hblank, hall⟩ := hagree.allRows_eq
  have hline : rowsWith? (delimiter text) (headText text) =
      some ((allRows (delimiter text) (headText text).toList).filter (!isBlankRow ·)) := by
    rw [rowsWith?_eq_some_iff, withoutMark_of_head? hmark]
    refine ⟨fun hlong => hshort ?_, rfl⟩
    obtain ⟨row, hrow, cell, hcell, hlength⟩ := hlong
    rw [hall]
    exact ⟨row, by simp [hrow], cell, hcell, hlength⟩
  have hfront : blank.filter (!isBlankRow ·) = [] := by
    simpa using hblank
  have hlength := length_allRows_le_one hagree.inside
  rw [hall, List.filter_append, hfront, List.nil_append, List.filter_append] at hrows
  rw [hline, hrows]
  cases hkept : (allRows (delimiter text) (headText text).toList).filter (!isBlankRow ·) with
  | nil => exact Or.inr ⟨rfl, by simpa using hkept⟩
  | cons row rest =>
    have hone : (row :: rest).length ≤ 1 := by
      rw [← hkept]
      exact Nat.le_trans (List.length_filter_le _ _) hlength
    have hrest : rest = [] := by simpa using hone
    exact Or.inl ⟨row, by rw [hrest], rfl⟩

/-- A blank line, and a header with a line end, the delimiter and a quote between quotes. -/
def quotedHeader : String := " \r\n\"a\n;\"\";\";b c;d\r1;2;3\n"

/-- The sample's decisive line goes over a line end and is read as its header. -/
theorem quotedHeader_read_as_header :
    rowsWith? (delimiter quotedHeader) quotedHeader =
        some [["a\n;\";", "b c", "d"], ["1", "2", "3"]] ∧
      (headText quotedHeader).toList.head? ≠ some byteOrderMark ∧ NoStrayQuote quotedHeader ∧
      BreaksAgree quotedHeader ∧ delimiter (headText quotedHeader) = delimiter quotedHeader ∧
      rowsWith? (delimiter quotedHeader) (headText quotedHeader) =
        some [["a\n;\";", "b c", "d"]] := by
  have hread : rowsWith? (delimiter quotedHeader) quotedHeader =
      some [["a\n;\";", "b c", "d"], ["1", "2", "3"]] := by decide
  have hmark : (headText quotedHeader).toList.head? ≠ some byteOrderMark := by decide
  have hquotes : NoStrayQuote quotedHeader := by decide
  have hsome : rowsWith? (delimiter quotedHeader) (headText quotedHeader) ≠ some [] := by
    decide +kernel
  obtain ⟨hbreaks, hdelimiter, hheader⟩ := headText_read_as_header hread hmark
  refine ⟨hread, hmark, hquotes, hbreaks hquotes, hdelimiter, ?_⟩
  rcases hheader (hbreaks hquotes) with ⟨row, hrow, hfirst⟩ | ⟨hnone, -⟩
  · rw [hrow, ← Option.some.inj hfirst]
  · exact absurd hnone hsome

/-- A first line of one empty cell between quotes, in front of the header row. -/
def emptyCellFirst : String := "\"\"\nid;prefixes\nT1;W1\n"

/-- A header row with a quote in a bare cell, which closes in the row behind it. -/
def strayQuoteFirst : String := "id;size 5\"\nT1,W1,6\",x,y\n"

/-- A header row with two byte order marks in front. -/
def markedTwice : String := "\uFEFF\uFEFFid,prefixes\nT1,W1\n"

/-- The decisive line need not be the header row: an empty cell between quotes is not blank for the
search and no row for the reader, a quote in a bare cell takes the line over the end of the row, and
a second mark is taken away with the line and not with the text. -/
theorem decisive_line_not_header :
    rowsWith? (delimiter emptyCellFirst) emptyCellFirst = some [["id;prefixes"], ["T1;W1"]] ∧
      rowsWith? (delimiter emptyCellFirst) (headText emptyCellFirst) = some [] ∧
      rowsWith? (delimiter strayQuoteFirst) strayQuoteFirst =
        some [["id;size 5\""], ["T1", "W1", "6\"", "x", "y"]] ∧
      rowsWith? (delimiter strayQuoteFirst) (headText strayQuoteFirst) =
        some [["id;size 5\""], ["T1", "W1", "6\"", "x", "y"]] ∧
      rowsWith? (delimiter markedTwice) markedTwice =
        some [["\uFEFFid", "prefixes"], ["T1", "W1"]] ∧
      rowsWith? (delimiter markedTwice) (headText markedTwice) = some [["id", "prefixes"]] := by
  decide

end DistrictAtlas.Table
