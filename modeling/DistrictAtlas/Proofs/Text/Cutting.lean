import Mathlib.Data.List.Basic
import DistrictAtlas.Text.Split

/-!
# Cutting what was joined

A text that does not hold the separator is a single part. So parts that do not hold it come back when
the text in which they were joined is cut.
-/

namespace DistrictAtlas.Text

variable {separator : Char}

/-- Characters without the separator belong to the part that follows them. -/
theorem splitChars_append {front cs first : List Char} {rest : List (List Char)}
    (hfront : separator ∉ front) (hcs : splitChars separator cs = first :: rest) :
    splitChars separator (front ++ cs) = (front ++ first) :: rest := by
  induction front with
  | nil => exact hcs
  | cons c front ih =>
    have hc : c ≠ separator := fun h => hfront (h ▸ List.mem_cons_self)
    rw [List.cons_append, splitChars_cons, ih fun h => hfront (List.mem_cons_of_mem c h), splitStep,
      if_neg hc, List.cons_append]

/-- Characters without the separator are a single part. -/
theorem splitChars_of_not_mem {cs : List Char} (h : separator ∉ cs) :
    splitChars separator cs = [cs] := by
  have hwhole := splitChars_append h (splitChars_nil separator)
  rwa [List.append_nil] at hwhole

/-- What stands in front of the first separator is the first part. -/
theorem splitChars_append_cons {front : List Char} (hfront : separator ∉ front) (rest : List Char) :
    splitChars separator (front ++ separator :: rest) = front :: splitChars separator rest := by
  have hcut : splitChars separator (separator :: rest) = [] :: splitChars separator rest :=
    if_pos rfl
  rw [splitChars_append hfront hcut, List.append_nil]

/-- The first part stands at the beginning of the text, and every other one stands somewhere in it. -/
theorem splitChars_cases (separator : Char) (cs : List Char) :
    ∃ first rest, splitChars separator cs = first :: rest ∧ first <+: cs ∧
      ∀ part ∈ rest, part <:+: cs := by
  induction cs with
  | nil => exact ⟨[], [], rfl, List.prefix_refl [], nofun⟩
  | cons c cs ih =>
    obtain ⟨first, rest, hcut, hfirst, hrest⟩ := ih
    rw [splitChars_cons, hcut, splitStep]
    split
    · refine ⟨[], first :: rest, rfl, List.nil_prefix, List.forall_mem_cons.mpr ⟨?_, ?_⟩⟩
      · exact List.infix_cons hfirst.isInfix
      · exact fun part hpart => List.infix_cons (hrest part hpart)
    · exact ⟨c :: first, rest, rfl, List.cons_prefix_cons.mpr ⟨rfl, hfirst⟩,
        fun part hpart => List.infix_cons (hrest part hpart)⟩

/-- Every part stands somewhere in the text. -/
theorem infix_of_mem_splitChars {cs part : List Char} (h : part ∈ splitChars separator cs) :
    part <:+: cs := by
  obtain ⟨first, rest, hcut, hfirst, hrest⟩ := splitChars_cases separator cs
  rw [hcut, List.mem_cons] at h
  rcases h with rfl | hmem
  · exact hfirst.isInfix
  · exact hrest part hmem

/-- Parts that do not hold the separator come back when they were joined with it. -/
theorem splitChars_intercalate {parts : List (List Char)} (hne : parts ≠ [])
    (hparts : ∀ part ∈ parts, separator ∉ part) :
    splitChars separator ([separator].intercalate parts) = parts := by
  induction parts with
  | nil => exact absurd rfl hne
  | cons first rest ih =>
    obtain ⟨hfirst, hrest⟩ := List.forall_mem_cons.mp hparts
    cases rest with
    | nil =>
      rw [List.intercalate_singleton]
      exact splitChars_of_not_mem hfirst
    | cons next others =>
      rw [List.intercalate_cons_cons, List.append_assoc, List.singleton_append,
        splitChars_append_cons hfirst, ih (List.cons_ne_nil next others) hrest]

end DistrictAtlas.Text
