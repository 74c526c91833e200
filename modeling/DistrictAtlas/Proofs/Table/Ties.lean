import Mathlib.Data.List.Find
import DistrictAtlas.Proofs.Table.LogicalLines

/-!
# Which delimiter is chosen

The delimiter is decided by how often each candidate occurs outside quotes on the first logical line
that is not blank. A candidate that occurs strictly more often than both others is chosen, and the
comma is chosen without such a candidate, but for two kinds of text: where semicolons and tabulators
tie above the commas the semicolon is chosen, and in a text of blank lines alone a tabulator on the
last of them.
-/

namespace DistrictAtlas.Table

/-- A candidate that occurs strictly more often than every other one. -/
def Leads (number : Char → Nat) (c : Char) : Prop :=
  ∀ other ∈ candidates, other ≠ c → number other < number c

instance (number : Char → Nat) (c : Char) : Decidable (Leads number c) :=
  List.decidableBAll (fun other => other ≠ c → number other < number c) candidates

/-- The candidate that leads, and the comma when none does. -/
def clearWinner (number : Char → Nat) : Char :=
  (candidates.find? fun c => decide (Leads number c)).getD ','

/-- Semicolons and tabulators occur equally often, and more often than commas. -/
def TiesAboveComma (number : Char → Nat) : Prop :=
  number ',' < number ';' ∧ number ';' = number '\t'

instance (number : Char → Nat) : Decidable (TiesAboveComma number) :=
  inferInstanceAs (Decidable (number ',' < number ';' ∧ number ';' = number '\t'))

/-- Only one candidate can lead. -/
theorem Leads.unique {number : Char → Nat} {c other : Char} (hc : c ∈ candidates)
    (hother : other ∈ candidates) (h : Leads number c) (h' : Leads number other) : other = c := by
  by_cases heq : other = c
  · exact heq
  · have hless := h other hother heq
    have hmore := h' c hc (Ne.symm heq)
    omega

/-- The candidate that leads is the winner. -/
theorem clearWinner_of_leads {number : Char → Nat} {c : Char} (hc : c ∈ candidates)
    (h : Leads number c) : clearWinner number = c := by
  unfold clearWinner
  cases hfound : candidates.find? fun c => decide (Leads number c) with
  | none => exact absurd (decide_eq_true h) (List.find?_eq_none.mp hfound c hc)
  | some other =>
    have hleads : Leads number other := by simpa using List.find?_some hfound
    exact h.unique hc (List.mem_of_find?_eq_some hfound) hleads

/-- Without a candidate that leads the comma is the winner. -/
theorem clearWinner_of_none {number : Char → Nat} (h : ∀ c ∈ candidates, ¬Leads number c) :
    clearWinner number = ',' := by
  have hnone : (candidates.find? fun c => decide (Leads number c)) = none :=
    List.find?_eq_none.mpr fun c hc => by simpa using h c hc
  rw [clearWinner, hnone, Option.getD_none]

/-- One candidate after the other is compared with the best so far, so that the semicolon wins its
tie with the tabulator; in all other cases the winner is the candidate that leads or the comma. -/
theorem Tally.winner_eq (tally : Tally) :
    tally.winner = if TiesAboveComma tally.count then ';' else clearWinner tally.count := by
  have hcomma : tally.count ',' = tally.commas := rfl
  have hsemicolon : tally.count ';' = tally.semicolons := rfl
  have htab : tally.count '\t' = tally.tabs := rfl
  by_cases hleads : ∃ c ∈ candidates, Leads tally.count c
  · obtain ⟨c, hc, hlead⟩ := hleads
    have hties : ¬TiesAboveComma tally.count := by
      rintro ⟨hless, htie⟩
      have hall := forall_candidates.mp hlead
      -- neither of the two that tie leads, nor the comma that is below them
      simp only [candidates, List.mem_cons, List.not_mem_nil, or_false] at hc
      rcases hc with rfl | rfl | rfl
      · have := hall.2.1 (by decide)
        omega
      · have := hall.2.2 (by decide)
        omega
      · have := hall.2.1 (by decide)
        omega
    rw [if_neg hties, clearWinner_of_leads hc hlead, Tally.winner_of_lead hc hlead]
  · have hnone : ∀ c ∈ candidates, ¬Leads tally.count c := fun c hc h => hleads ⟨c, hc, h⟩
    have hall := forall_candidates.mp hnone
    simp only [Leads, forall_candidates, hcomma, hsemicolon, htab, ne_eq, Char.reduceEq,
      not_true_eq_false, not_false_eq_true, true_implies, false_implies, true_and, and_true] at hall
    rw [clearWinner_of_none hnone]
    simp only [TiesAboveComma, hcomma, hsemicolon, htab]
    unfold Tally.winner
    split <;> split <;> split <;> first | rfl | omega

/-- How often a candidate occurs outside quotes on the first logical line that is not blank. -/
def occurrences (text : String) (c : Char) : Nat :=
  (firstLine? (withoutMark text.toList)).elim 0 fun line => (outsideQuotes false line).count c

/-- All logical lines are blank, and there is a tabulator on the last of them. -/
def EndsInTabs (text : String) : Prop :=
  firstLine? (withoutMark text.toList) = none ∧ '\t' ∈ lastLine (withoutMark text.toList)

instance (text : String) : Decidable (EndsInTabs text) :=
  inferInstanceAs (Decidable
    (firstLine? (withoutMark text.toList) = none ∧ '\t' ∈ lastLine (withoutMark text.toList)))

/-- Without a quote everything is outside quotes. -/
theorem outsideQuotes_eq_self {cs : List Char} (h : '"' ∉ cs) : outsideQuotes false cs = cs := by
  induction cs with
  | nil => rfl
  | cons c rest ih =>
    have hc : c ≠ '"' := fun heq => h (by simp [heq])
    have hrest : '"' ∉ rest := fun hmem => h (List.mem_cons_of_mem c hmem)
    rw [outsideQuotes, if_neg hc, if_neg Bool.false_ne_true, ih hrest]

/-- Where all lines are blank so is the last one. -/
theorem all_isBlank_lastLine {cs : List Char} (h : firstLine? cs = none) :
    (lastLine cs).all Text.isBlank = true := by
  have hlast : lastLine cs = (logicalLines false cs).getLast (logicalLines_ne_nil false cs) := by
    rw [lastLine, List.getLastD_eq_getLast?, List.getLast?_eq_some_getLast, Option.getD_some]
  have hmem : lastLine cs ∈ logicalLines false cs := by
    rw [hlast]
    exact List.getLast_mem _
  simpa using List.find?_eq_none.mp h _ hmem

/-- The winner among numbers is decided by those of the candidates. -/
theorem winner_congr {number number' : Char → Nat} (h : ∀ c ∈ candidates, number c = number' c) :
    (if TiesAboveComma number then ';' else clearWinner number) =
      if TiesAboveComma number' then ';' else clearWinner number' := by
  obtain ⟨hcomma, hsemicolon, htab⟩ := forall_candidates.mp h
  have hties : TiesAboveComma number ↔ TiesAboveComma number' := by
    simp only [TiesAboveComma, hcomma, hsemicolon, htab]
  have hleads : ∀ c ∈ candidates, Leads number c ↔ Leads number' c := by
    intro c hc
    refine forall_congr' fun other => forall_congr' fun hother => ?_
    rw [h c hc, h other hother]
  have hwinner : clearWinner number = clearWinner number' := by
    rw [clearWinner, clearWinner,
      List.find?_congr fun c hc => decide_eq_decide.mpr (hleads c hc)]
  rw [hwinner]
  simp only [hties]

/-- On a line the winner is decided by the occurrences outside quotes. -/
theorem winner_foldl_step (line : List Char) :
    (line.foldl Tally.step {}).winner =
      if TiesAboveComma ((outsideQuotes false line).count ·) then ';'
      else clearWinner ((outsideQuotes false line).count ·) := by
  have hcount : ∀ c ∈ candidates,
      (line.foldl Tally.step {}).count c = (outsideQuotes false line).count c := by
    intro c hc
    have hzero : Tally.count {} c = 0 := by simp [Tally.count]
    rw [count_foldl_step line {} hc, hzero, Nat.zero_add]
  rw [Tally.winner_eq, winner_congr hcount]

/-- On a blank line the tabulator wins if there is one, and otherwise the comma. -/
theorem winner_foldl_step_of_blank {line : List Char} (h : line.all Text.isBlank = true) :
    (line.foldl Tally.step {}).winner = if '\t' ∈ line then '\t' else ',' := by
  have habsent : ∀ c, Text.isBlank c = false → c ∉ line := by
    intro c hc hmem
    rw [List.all_eq_true.mp h c hmem] at hc
    exact Bool.noConfusion hc
  have hcomma : line.count ',' = 0 := List.count_eq_zero.mpr (habsent ',' (by decide))
  have hsemicolon : line.count ';' = 0 := List.count_eq_zero.mpr (habsent ';' (by decide))
  rw [winner_foldl_step, outsideQuotes_eq_self (habsent '"' (by decide))]
  have hties : ¬TiesAboveComma (line.count ·) := by
    rintro ⟨hless, -⟩
    dsimp only at hless
    omega
  rw [if_neg hties]
  by_cases htab : '\t' ∈ line
  · have hpositive : 0 < line.count '\t' := List.count_pos_iff.mpr htab
    have hleads : Leads (line.count ·) '\t' := by
      simp only [Leads, forall_candidates, hcomma, hsemicolon]
      exact ⟨fun _ => hpositive, fun _ => hpositive, fun hne => absurd rfl hne⟩
    rw [if_pos htab, clearWinner_of_leads (by decide) hleads]
  · have hnone : line.count '\t' = 0 := List.count_eq_zero.mpr htab
    have hleads : ∀ c ∈ candidates, ¬Leads (line.count ·) c := by
      simp only [Leads, forall_candidates, hcomma, hsemicolon, hnone]
      decide
    rw [if_neg htab, clearWinner_of_none hleads]

/-- The delimiter of a text is the candidate that leads on its first logical line that is not blank,
or the comma, but for a tie of semicolon and tabulator and for a text of blank lines alone. -/
theorem delimiter_by_occurrences (text : String) :
    delimiter text =
      if TiesAboveComma (occurrences text) then ';'
      else if EndsInTabs text then '\t'
      else clearWinner (occurrences text) := by
  unfold delimiter delimiterOf
  rw [headLine_eq]
  cases hline : firstLine? (withoutMark text.toList) with
  | some line =>
    have hoccurrences : occurrences text = ((outsideQuotes false line).count ·) := by
      funext c
      rw [occurrences, hline, Option.elim_some]
    have hends : ¬EndsInTabs text := by
      rintro ⟨hnone, -⟩
      rw [hline] at hnone
      cases hnone
    rw [Option.getD_some, winner_foldl_step, hoccurrences, if_neg hends]
  | none =>
    have hoccurrences : occurrences text = fun _ => 0 := by
      funext c
      rw [occurrences, hline, Option.elim_none]
    have hties : ¬TiesAboveComma fun _ => 0 := by decide
    have hleads : ∀ c ∈ candidates, ¬Leads (fun _ => 0) c := by
      simp only [Leads, forall_candidates]
      decide
    have hends : EndsInTabs text ↔ '\t' ∈ lastLine (withoutMark text.toList) :=
      and_iff_right hline
    rw [Option.getD_none, winner_foldl_step_of_blank (all_isBlank_lastLine hline), hoccurrences,
      if_neg hties, clearWinner_of_none hleads]
    simp only [hends]

/-- A tie that does not involve the comma: the semicolon is chosen, although no candidate leads. -/
theorem semicolon_wins_tie :
    delimiter "a;b\tc\n" = ';' ∧ clearWinner (occurrences "a;b\tc\n") = ',' := by
  decide +kernel

end DistrictAtlas.Table
