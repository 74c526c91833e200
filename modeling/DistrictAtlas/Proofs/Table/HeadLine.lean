import Mathlib.Data.List.Induction
import DistrictAtlas.Proofs.Table.Sniffing

/-!
# Where the decisive line stands

The line from which the delimiter is taken, in its text. In front of it there are blank lines with
their ends and nothing else; every line end in it stands between quotes; and behind it there is
nothing, or the line end that ends it, which stands outside quotes. Here a quote is open behind an
odd number of quote characters of the line.
-/

namespace DistrictAtlas.Table

/-- A quote is open behind the characters. -/
def LeavesOpen (cs : List Char) : Prop := cs.count '"' % 2 = 1

/-- Every line end among the characters stands between quotes. -/
def EndsQuoted (cs : List Char) : Prop :=
  ∀ place c, cs[place]? = some c → isLineEnd c = true → LeavesOpen (cs.take place)

/-- One more quote opens what was not open, and closes what was. -/
theorem leavesOpen_concat_quote (cs : List Char) : LeavesOpen (cs ++ ['"']) ↔ ¬LeavesOpen cs := by
  simp only [LeavesOpen, List.count_append, List.count_singleton_self]
  omega

/-- Any other character changes nothing about quotes. -/
theorem leavesOpen_concat {c : Char} (hc : c ≠ '"') (cs : List Char) :
    LeavesOpen (cs ++ [c]) ↔ LeavesOpen cs := by
  have hnone : [c].count '"' = 0 := by simp [hc]
  simp only [LeavesOpen, List.count_append, hnone, Nat.add_zero]

/-- What holds at each place of the characters with one more behind holds of those in front, and of
the last one. -/
theorem forall_places_concat {p : List Char → Char → Prop} (cs : List Char) (x : Char) :
    (∀ place c, (cs ++ [x])[place]? = some c → p ((cs ++ [x]).take place) c) ↔
      (∀ place c, cs[place]? = some c → p (cs.take place) c) ∧ p cs x := by
  constructor
  · intro h
    refine ⟨fun place c hc => ?_, ?_⟩
    · obtain ⟨hlt, -⟩ := List.getElem?_eq_some_iff.mp hc
      have hplace := h place c (by rw [List.getElem?_append_left hlt, hc])
      rwa [List.take_append_of_le_length (Nat.le_of_lt hlt)] at hplace
    · have hlast := h cs.length x (by simp)
      rwa [List.take_left] at hlast
  · rintro ⟨hfront, hlast⟩ place c hc
    by_cases hlt : place < cs.length
    · rw [List.getElem?_append_left hlt] at hc
      rw [List.take_append_of_le_length (Nat.le_of_lt hlt)]
      exact hfront place c hc
    · have hplace : place = cs.length := by
        obtain ⟨hbound, -⟩ := List.getElem?_eq_some_iff.mp hc
        simp only [List.length_append, List.length_singleton] at hbound
        omega
      subst hplace
      simp only [List.getElem?_concat_length, Option.some.injEq] at hc
      subst hc
      rwa [List.take_left]

/-- What holds at each place of the characters holds of the first of them alone. -/
theorem forall_places_take {p : List Char → Char → Prop} {cs : List Char}
    (h : ∀ place c, cs[place]? = some c → p (cs.take place) c) (number : Nat) :
    ∀ place c, (cs.take number)[place]? = some c → p ((cs.take number).take place) c := by
  intro place c hc
  rw [List.getElem?_take] at hc
  split at hc
  · next hlt =>
    rw [List.take_take, Nat.min_eq_left (Nat.le_of_lt hlt)]
    exact h place c hc
  · cases hc

/-- Line ends between quotes in the characters with one more behind are those in front, and the last
one if it is a line end. -/
theorem endsQuoted_concat (cs : List Char) (c : Char) :
    EndsQuoted (cs ++ [c]) ↔ EndsQuoted cs ∧ (isLineEnd c = true → LeavesOpen cs) :=
  forall_places_concat (p := fun front c => isLineEnd c = true → LeavesOpen front) cs c

/-- A line end is blank. -/
theorem isBlank_of_isLineEnd {c : Char} (h : isLineEnd c = true) : Text.isBlank c = true := by
  have hcases : c = '\n' ∨ c = '\r' := by simpa [isLineEnd] using h
  rcases hcases with rfl | rfl <;> decide

namespace LineSearch

/-- What a search knows about the characters that it has seen: they are `before`, then the line of the
search, then `behind`. -/
structure Knows (search : LineSearch) (seen before behind : List Char) : Prop where
  /-- Nothing is left out. -/
  seen_eq : seen = before ++ (search.line.reverse ++ behind)
  /-- In front of the line all is blank. -/
  before_blank : before.all Text.isBlank = true
  /-- The line begins behind a line end or with the text. -/
  before_end : ∀ c, before.getLast? = some c → isLineEnd c = true
  /-- The search knows whether a quote is open behind the line. -/
  quoted_iff : search.quoted = true ↔ LeavesOpen search.line.reverse
  /-- The line goes on over line ends between quotes, and over no other. -/
  ends_quoted : EndsQuoted search.line.reverse
  /-- A line that has not ended has nothing behind it. -/
  behind_nil : search.ended = false → behind = []
  /-- A line that has ended has a line end behind it, outside quotes. -/
  behind_end : search.ended = true →
    search.quoted = false ∧ ∃ c rest, behind = c :: rest ∧ isLineEnd c = true

/-- A character that joins the line. -/
theorem Knows.join {search : LineSearch} {seen before behind : List Char} {c : Char} {quoted : Bool}
    (h : search.Knows seen before behind) (hopen : search.ended = false)
    (hquoted : quoted = true ↔ LeavesOpen (search.line.reverse ++ [c]))
    (hend : isLineEnd c = true → LeavesOpen search.line.reverse) :
    Knows ⟨quoted, c :: search.line, false⟩ (seen ++ [c]) before [] where
  seen_eq := by
    rw [h.seen_eq, h.behind_nil hopen]
    simp
  before_blank := h.before_blank
  before_end := h.before_end
  quoted_iff := by rwa [List.reverse_cons]
  ends_quoted := by
    rw [List.reverse_cons, endsQuoted_concat]
    exact ⟨h.ends_quoted, hend⟩
  behind_nil := fun _ => rfl
  behind_end := fun hended => absurd hended Bool.false_ne_true

/-- A blank line is thrown away with its end. -/
theorem Knows.discard {search : LineSearch} {seen before behind : List Char} {c : Char}
    (h : search.Knows seen before behind) (hopen : search.ended = false)
    (hblank : search.line.all Text.isBlank = true) (hend : isLineEnd c = true) :
    Knows {} (seen ++ [c]) (seen ++ [c]) [] where
  seen_eq := by simp
  before_blank := by
    rw [h.seen_eq, h.behind_nil hopen]
    simp [h.before_blank, hblank, isBlank_of_isLineEnd hend]
  before_end := fun x hx => by
    simp only [List.getLast?_concat, Option.some.injEq] at hx
    rwa [← hx]
  quoted_iff := by simp [LeavesOpen]
  ends_quoted := fun place x hx => by simp at hx
  behind_nil := fun _ => rfl
  behind_end := fun hended => absurd hended Bool.false_ne_true

/-- A line ends with a line end outside quotes. -/
theorem Knows.finish {search : LineSearch} {seen before behind : List Char} {c : Char}
    (h : search.Knows seen before behind) (hopen : search.ended = false)
    (hquoted : search.quoted = false) (hend : isLineEnd c = true) :
    Knows ⟨search.quoted, search.line, true⟩ (seen ++ [c]) before [c] where
  seen_eq := by
    rw [h.seen_eq, h.behind_nil hopen]
    simp
  before_blank := h.before_blank
  before_end := h.before_end
  quoted_iff := h.quoted_iff
  ends_quoted := h.ends_quoted
  behind_nil := fun hopen => absurd hopen.symm Bool.false_ne_true
  behind_end := fun _ => ⟨hquoted, c, [], rfl, hend⟩

/-- What stands behind a line that has ended does not matter. -/
theorem Knows.goOn {search : LineSearch} {seen before behind : List Char}
    (h : search.Knows seen before behind) (hended : search.ended = true) (c : Char) :
    search.Knows (seen ++ [c]) before (behind ++ [c]) where
  seen_eq := by
    rw [h.seen_eq, List.append_assoc, List.append_assoc]
  before_blank := h.before_blank
  before_end := h.before_end
  quoted_iff := h.quoted_iff
  ends_quoted := h.ends_quoted
  behind_nil := fun hopen => by
    rw [hended] at hopen
    cases hopen
  behind_end := fun _ => by
    obtain ⟨hquoted, x, rest, hbehind, hx⟩ := h.behind_end hended
    exact ⟨hquoted, x, rest ++ [c], by rw [hbehind, List.cons_append], hx⟩

/-- One more character keeps what a search knows. -/
theorem Knows.step {search : LineSearch} {seen before behind : List Char}
    (h : search.Knows seen before behind) (c : Char) :
    ∃ before behind, (search.step c).Knows (seen ++ [c]) before behind := by
  cases hended : search.ended with
  | true =>
    have hstep : search.step c = search := by simp [LineSearch.step, hended]
    rw [hstep]
    exact ⟨before, behind ++ [c], h.goOn hended c⟩
  | false =>
    by_cases hq : c = '"'
    · have hstep : search.step c = ⟨!search.quoted, c :: search.line, false⟩ := by
        simp [LineSearch.step, hended, hq]
      have hquoted : (!search.quoted) = true ↔ LeavesOpen (search.line.reverse ++ [c]) := by
        rw [hq, leavesOpen_concat_quote, ← h.quoted_iff]
        simp
      rw [hstep]
      refine ⟨before, [], h.join hended hquoted fun hend => ?_⟩
      exact absurd hq (ne_quote_of_isLineEnd hend)
    cases hends : isLineEnd c && !search.quoted with
    | false =>
      have hstep : search.step c = ⟨search.quoted, c :: search.line, false⟩ := by
        simp [LineSearch.step, hended, hq, hends]
      have hquoted : search.quoted = true ↔ LeavesOpen (search.line.reverse ++ [c]) := by
        rw [leavesOpen_concat hq, h.quoted_iff]
      rw [hstep]
      refine ⟨before, [], h.join hended hquoted fun hend => ?_⟩
      rw [← h.quoted_iff]
      simpa [hend] using hends
    | true =>
      obtain ⟨hend, hopen⟩ := Bool.and_eq_true_iff.mp hends
      have hquoted : search.quoted = false := by simpa using hopen
      cases hblank : search.line.all Text.isBlank with
      | true =>
        have hstep : search.step c = {} := by
          simp [LineSearch.step, hended, hq, hend, hblank, hquoted]
        rw [hstep]
        exact ⟨seen ++ [c], [], h.discard hended hblank hend⟩
      | false =>
        have hstep : search.step c = ⟨search.quoted, search.line, true⟩ := by
          simp [LineSearch.step, hended, hq, hends, hblank]
        rw [hstep]
        exact ⟨before, [c], h.finish hended hquoted hend⟩

/-- What a search knows at the end of the characters. -/
theorem exists_knows (cs : List Char) :
    ∃ before behind, (cs.foldl LineSearch.step {}).Knows cs before behind := by
  induction cs using List.reverseRecOn with
  | nil =>
    refine ⟨[], [], rfl, rfl, by simp, by simp [LeavesOpen], ?_, fun _ => rfl, ?_⟩
    · intro place c hc
      simp at hc
    · exact fun hended => absurd hended Bool.false_ne_true
  | append_singleton cs c ih =>
    obtain ⟨before, behind, h⟩ := ih
    rw [List.foldl_append]
    exact h.step c

end LineSearch

/-- A line whose ends all stand between quotes is gone through as one line. -/
theorem foldl_step_of_endsQuoted {cs : List Char} (h : EndsQuoted cs) :
    ∃ quoted, (quoted = true ↔ LeavesOpen cs) ∧
      cs.foldl LineSearch.step {} = ⟨quoted, cs.reverse, false⟩ := by
  induction cs using List.reverseRecOn with
  | nil => exact ⟨false, by simp [LeavesOpen], rfl⟩
  | append_singleton cs c ih =>
    obtain ⟨hfront, hlast⟩ := (endsQuoted_concat cs c).mp h
    obtain ⟨quoted, hquoted, hfold⟩ := ih hfront
    rw [List.foldl_append, hfold, List.reverse_concat, List.foldl_cons, List.foldl_nil]
    by_cases hq : c = '"'
    · refine ⟨!quoted, ?_, by simp [LineSearch.step, hq]⟩
      rw [hq, leavesOpen_concat_quote, ← hquoted]
      simp
    · refine ⟨quoted, by rw [hquoted, leavesOpen_concat hq], ?_⟩
      cases hend : isLineEnd c with
      | true => simp [LineSearch.step, hq, hend, hquoted.mpr (hlast hend)]
      | false => simp [LineSearch.step, hq, hend]

/-- Searched by itself, such a line is found whole. -/
theorem headLine_of_endsQuoted {cs : List Char} (h : EndsQuoted cs) : headLine cs = cs := by
  obtain ⟨quoted, -, hfold⟩ := foldl_step_of_endsQuoted h
  rw [headLine, hfold, List.reverse_reverse]

end DistrictAtlas.Table
