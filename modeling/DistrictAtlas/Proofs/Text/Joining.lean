import DistrictAtlas.Text.Lines
import Mathlib.Data.List.Basic

/-!
# Joined texts and their line ends

What stands in texts that were joined, what stands behind the last mark of a text, and texts in which
no line ends have to be changed.
-/

namespace DistrictAtlas.Text

/-- What stands in joined texts stands between them or in one of them. -/
theorem mem_intercalate {separator : String} {texts : List String} {c : Char}
    (h : c ∈ (separator.intercalate texts).toList) :
    c ∈ separator.toList ∨ ∃ text ∈ texts, c ∈ text.toList := by
  induction texts with
  | nil => cases h
  | cons text texts ih =>
    cases texts with
    | nil =>
      rw [String.intercalate_singleton] at h
      exact Or.inr ⟨text, List.mem_singleton_self text, h⟩
    | cons next texts =>
      rw [String.intercalate_cons_cons, String.toList_append, String.toList_append, List.mem_append,
        List.mem_append] at h
      rcases h with (htext | hseparator) | hothers
      · exact Or.inr ⟨text, List.mem_cons_self, htext⟩
      · exact Or.inl hseparator
      · refine (ih hothers).imp_right ?_
        rintro ⟨other, hmem, hc⟩
        exact ⟨other, List.mem_cons_of_mem _ hmem, hc⟩

/-- What stands behind the last mark is found from the end. -/
theorem behind_mark_eq {mark : Char} {front other behind rest : List Char} (hbehind : mark ∉ behind)
    (hrest : mark ∉ rest) (h : front ++ mark :: behind = other ++ mark :: rest) : behind = rest := by
  have hfind : ∀ (front : List Char) {behind : List Char}, mark ∉ behind →
      (front ++ mark :: behind).reverse.takeWhile (· ≠ mark) = behind.reverse := by
    intro front behind hnone
    have hall : ∀ c ∈ behind.reverse, decide (c ≠ mark) = true := fun c hc =>
      decide_eq_true fun heq => hnone (heq ▸ List.mem_reverse.mp hc)
    rw [List.reverse_append, List.reverse_cons, List.append_assoc, List.takeWhile_append_of_pos hall]
    simp
  have hreversed := hfind front hbehind
  rw [h, hfind other hrest] at hreversed
  exact (List.reverse_injective hreversed).symm

/-- Characters without a carriage return are taken as they are. -/
theorem foldl_step {cs : List Char} (h : '\r' ∉ cs) (done : List Char) :
    cs.foldl BreakChange.step ⟨done, false⟩ = ⟨cs.reverse ++ done, false⟩ := by
  induction cs generalizing done with
  | nil => rfl
  | cons c rest ih =>
    rw [List.mem_cons, not_or] at h
    have hstep : BreakChange.step ⟨done, false⟩ c = ⟨c :: done, false⟩ := by
      simp [BreakChange.step, Ne.symm h.1]
    rw [List.foldl_cons, hstep, ih h.2, List.reverse_cons, List.append_assoc,
      List.singleton_append]

/-- A text without carriage returns has no line ends but line feeds. -/
theorem withLineFeeds_eq_self {text : String} (h : '\r' ∉ text.toList) :
    withLineFeeds text = text := by
  have hdone := foldl_step h []
  rw [withLineFeeds, hdone, List.append_nil, List.reverse_reverse, String.ofList_toList]

end DistrictAtlas.Text
