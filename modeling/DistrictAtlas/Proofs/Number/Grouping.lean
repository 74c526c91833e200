import DistrictAtlas.Number.Digits
import Mathlib.Data.List.Basic

/-!
# Digits in groups of three

Grouped digits are one to three digits and behind them groups of three, each with a comma in front.
So the commas stand where they have to be counted from the right end, and nowhere else.
-/

namespace DistrictAtlas.Digits

/-- Digits in groups: up to three of them in front, all others in groups of three behind a comma. -/
def IsGrouping (digits chars : List Char) : Prop :=
  ∃ (first : List Char) (groups : List (List Char)),
    (1 ≤ first.length ∧ first.length ≤ 3) ∧ (∀ group ∈ groups, group.length = 3) ∧
      digits = first ++ groups.flatten ∧ chars = first ++ groups.flatMap fun group => ',' :: group

/-- After three characters a comma comes before the next group, if there is one. -/
theorem groupReversed_three {cs : List Char} (h : cs ≠ []) :
    groupReversed 3 cs = ',' :: groupReversed 0 cs := by
  cases cs with
  | nil => exact absurd rfl h
  | cons c rest => rfl

/-- Three more digits are a group of their own behind the others. -/
theorem group_append_three {front : List Char} (h : front ≠ []) (a b c : Char) :
    group (front ++ [a, b, c]) = group front ++ [',', a, b, c] := by
  have hlast : groupReversed 0 (front ++ [a, b, c]).reverse =
      c :: b :: a :: groupReversed 3 front.reverse := by
    rw [List.reverse_append]
    rfl
  rw [group, hlast, groupReversed_three (mt List.reverse_eq_nil_iff.mp h), group]
  simp only [List.reverse_cons, List.append_assoc, List.cons_append, List.nil_append]

/-- Up to three digits stay as they are. -/
theorem group_of_length_le {digits : List Char} (h : digits.length ≤ 3) : group digits = digits := by
  match digits, h with
  | [], _ => rfl
  | [_], _ => rfl
  | [_, _], _ => rfl
  | [_, _, _], _ => rfl

/-- More than three digits are some digits and three behind them. -/
theorem exists_last_three {digits : List Char} (h : 3 < digits.length) :
    ∃ front a b c, front ≠ [] ∧ digits = front ++ [a, b, c] := by
  have hlast : (digits.drop (digits.length - 3)).length = 3 := by
    rw [List.length_drop]
    omega
  have hfront : digits.take (digits.length - 3) ≠ [] := by
    refine List.ne_nil_of_length_pos ?_
    rw [List.length_take]
    omega
  obtain ⟨a, b, c, habc⟩ := List.length_eq_three.mp hlast
  exact ⟨_, a, b, c, hfront, by rw [← habc, List.take_append_drop]⟩

/-- Digits are grouped as they have to be. -/
theorem isGrouping_group {digits : List Char} (h : digits ≠ []) : IsGrouping digits (group digits) := by
  induction hlength : digits.length using Nat.strongRecOn generalizing digits with
  | ind length ih =>
    by_cases hshort : digits.length ≤ 3
    · exact ⟨digits, [], ⟨List.length_pos_iff.mpr h, hshort⟩, nofun, (List.append_nil _).symm,
        (group_of_length_le hshort).trans (List.append_nil _).symm⟩
    · -- the last three digits are a group, and those in front of them are grouped already
      obtain ⟨front, a, b, c, hfront, rfl⟩ := exists_last_three (Nat.lt_of_not_le hshort)
      rw [List.length_append, List.length_cons] at hlength
      obtain ⟨first, groups, hfirst, hgroups, hdigits, hchars⟩ := ih _ (by omega) hfront rfl
      refine ⟨first, groups ++ [[a, b, c]], hfirst, ?_, ?_, ?_⟩
      · exact List.forall_mem_append.mpr ⟨hgroups, List.forall_mem_singleton.mpr rfl⟩
      · rw [List.flatten_append, List.flatten_singleton, ← List.append_assoc, ← hdigits]
      · rw [group_append_three hfront, hchars, List.flatMap_append, List.flatMap_singleton,
          List.append_assoc]

/-- Only commas come in by grouping. -/
theorem IsGrouping.filter_eq {digits chars : List Char} (h : IsGrouping digits chars)
    {keep : Char → Bool} (hcomma : keep ',' = false) (hdigits : ∀ c ∈ digits, keep c = true) :
    chars.filter keep = digits := by
  obtain ⟨first, groups, -, -, rfl, rfl⟩ := h
  obtain ⟨hfirst, hgroups⟩ := List.forall_mem_append.mp hdigits
  rw [List.filter_append, List.filter_eq_self.mpr hfirst, List.filter_flatMap]
  congr 1
  induction groups with
  | nil => rfl
  | cons group rest ih =>
    rw [List.flatten_cons, List.forall_mem_append] at hgroups
    rw [List.flatMap_cons, List.flatten_cons, List.filter_cons, hcomma, if_neg Bool.false_ne_true,
      List.filter_eq_self.mpr hgroups.1, ih (List.forall_mem_append.mpr ⟨hfirst, hgroups.2⟩) hgroups.2]

end DistrictAtlas.Digits
