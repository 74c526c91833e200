import Mathlib.Data.List.DropRight
import DistrictAtlas.Text.Blank
import DistrictAtlas.Text.Casing

/-!
# Trimming and upper-casing

Trimming leaves nothing exactly of a blank text, and trimming twice is trimming once; what it takes
away are blanks on both sides. Upper-casing may lengthen a text but takes no character away, so a
text is blank exactly when nothing is left of it after both.
-/

namespace DistrictAtlas.Text

/-- Trimming drops the blanks at the end of what is left without the blanks at the start. -/
theorem trimChars_eq_rdropWhile (cs : List Char) :
    trimChars cs = (cs.dropWhile isBlank).rdropWhile isBlank := rfl

/-- Nothing is left of characters by trimming exactly if all of them are blank. -/
theorem trimChars_eq_nil_iff (cs : List Char) : trimChars cs = [] ↔ cs.all isBlank = true := by
  rw [trimChars_eq_rdropWhile, List.rdropWhile_eq_nil_iff, List.all_eq_true]
  constructor
  · intro h c hc
    rw [← List.takeWhile_append_dropWhile (p := isBlank) (l := cs)] at hc
    rcases List.mem_append.mp hc with hfront | hrest
    · exact List.mem_takeWhile_imp hfront
    · exact h c hrest
  · intro h c hc
    exact h c ((List.dropWhile_sublist isBlank).mem hc)

/-- Nothing is left of a text by trimming exactly if it is blank. -/
theorem isEmpty_trim (s : String) : (trim s).isEmpty = isBlankText s := by
  rw [Bool.eq_iff_iff, String.isEmpty_iff, ← String.toList_eq_nil_iff, toList_trim,
    trimChars_eq_nil_iff]
  rfl

/-- The first character that is left by trimming is not blank. -/
theorem not_isBlank_of_head?_trimChars {cs : List Char} {c : Char}
    (h : (trimChars cs).head? = some c) : isBlank c = false := by
  obtain ⟨behind, hsplit⟩ := List.rdropWhile_prefix isBlank (l := cs.dropWhile isBlank)
  have hhead : (cs.dropWhile isBlank).head? = some c := by
    rw [← hsplit, List.head?_append, ← trimChars_eq_rdropWhile, h]
    rfl
  have hfirst := List.head?_dropWhile_not isBlank cs
  rw [hhead] at hfirst
  exact hfirst

/-- Trimming what is trimmed changes nothing. -/
theorem trimChars_trimChars (cs : List Char) : trimChars (trimChars cs) = trimChars cs := by
  have hfront : (trimChars cs).dropWhile isBlank = trimChars cs := by
    cases htrimmed : trimChars cs with
    | nil => rfl
    | cons c rest =>
      have hc : isBlank c = false := not_isBlank_of_head?_trimChars (by rw [htrimmed]; rfl)
      rw [List.dropWhile_cons, hc, if_neg Bool.false_ne_true]
  rw [trimChars_eq_rdropWhile (trimChars cs), hfront, trimChars_eq_rdropWhile,
    List.rdropWhile_idempotent]

/-- Characters are what trimming leaves of them, with blanks on both sides. -/
theorem exists_trimChars (cs : List Char) :
    ∃ front back : List Char, cs = front ++ trimChars cs ++ back ∧
      (∀ c ∈ front, isBlank c = true) ∧ ∀ c ∈ back, isBlank c = true := by
  refine ⟨cs.takeWhile isBlank, (cs.dropWhile isBlank).rtakeWhile isBlank, ?_, ?_, ?_⟩
  · rw [trimChars_eq_rdropWhile, List.append_assoc, List.rdropWhile_append_rtakeWhile,
      List.takeWhile_append_dropWhile]
  · exact fun c hc => List.mem_takeWhile_imp hc
  · exact fun c hc => List.mem_rtakeWhile_imp hc

/-- What trimming leaves stands somewhere in the text. -/
theorem trimChars_infix (cs : List Char) : trimChars cs <:+: cs := by
  obtain ⟨front, back, hcs, -, -⟩ := exists_trimChars cs
  exact ⟨front, back, hcs.symm⟩

/-- Blanks put on both sides are lost by trimming. -/
theorem trimChars_padded {front back : List Char} (hfront : ∀ c ∈ front, isBlank c = true)
    (cs : List Char) (hback : ∀ c ∈ back, isBlank c = true) :
    trimChars (front ++ cs ++ back) = trimChars cs := by
  have hreverse : ∀ c ∈ back.reverse, isBlank c = true := fun c hc => hback c (List.mem_reverse.mp hc)
  unfold trimChars
  rw [List.append_assoc, List.dropWhile_append_of_pos hfront, List.dropWhile_append]
  split
  · next hnone =>
    have hblank : back.dropWhile isBlank = [] := List.dropWhile_eq_nil_iff.mpr hback
    rw [hblank, List.isEmpty_iff.mp hnone]
  · rw [List.reverse_append, List.dropWhile_append_of_pos hreverse]

/-- The last character that is left by trimming is not blank. -/
theorem not_isBlank_of_getLast?_trimChars {cs : List Char} {c : Char}
    (h : (trimChars cs).getLast? = some c) : isBlank c = false := by
  have hlast := List.head?_dropWhile_not isBlank (cs.dropWhile isBlank).reverse
  unfold trimChars at h
  rw [List.getLast?_reverse] at h
  rw [h] at hlast
  exact hlast

/-- Trimming changes nothing exactly if neither the first character is blank nor the last one. -/
theorem trimChars_eq_self_iff (cs : List Char) :
    trimChars cs = cs ↔ (∀ c, cs.head? = some c → isBlank c = false) ∧
      ∀ c, cs.getLast? = some c → isBlank c = false := by
  constructor
  · intro h
    constructor
    · intro c hc
      exact not_isBlank_of_head?_trimChars (h.symm ▸ hc)
    · intro c hc
      exact not_isBlank_of_getLast?_trimChars (h.symm ▸ hc)
  · rintro ⟨hfirst, hlast⟩
    have hfront : cs.dropWhile isBlank = cs := by
      cases cs with
      | nil => rfl
      | cons c rest =>
        rw [List.dropWhile_cons, hfirst c rfl, if_neg Bool.false_ne_true]
    have hback : cs.rdropWhile isBlank = cs :=
      List.rdropWhile_eq_self_iff.mpr fun hne hblank => by
        rw [hlast _ (List.getLast?_eq_some_getLast hne)] at hblank
        cases hblank
    rw [trimChars_eq_rdropWhile, hfront, hback]

/-- Behind a first character that is not blank only blanks at the end are lost by trimming. -/
theorem exists_trimChars_append {cs : List Char} (h : ∀ c, cs.head? = some c → isBlank c = false) :
    ∃ back : List Char, trimChars cs ++ back = cs ∧ ∀ c ∈ back, isBlank c = true := by
  obtain ⟨front, back, hsplit, hfront, hback⟩ := exists_trimChars cs
  cases front with
  | nil => exact ⟨back, hsplit.symm, hback⟩
  | cons c rest =>
    have hblank := hfront c List.mem_cons_self
    rw [h c (by rw [hsplit]; rfl)] at hblank
    cases hblank

/-- Every expansion in the table has characters. -/
theorem upperExpansions_ne_nil : ∀ entry ∈ upperExpansions, entry.2 ≠ [] := by decide

/-- The upper-case form of a character has characters. -/
theorem upperChar_ne_nil (c : Char) : upperChar c ≠ [] := by
  unfold upperChar
  split
  · exact List.cons_ne_nil _ _
  · split
    · exact List.cons_ne_nil _ _
    · split
      · next codes hcodes =>
        obtain ⟨before, behind, htable, -⟩ := List.lookup_eq_some_iff.mp hcodes
        have hmem : (c.toNat, codes) ∈ upperExpansions := by
          rw [htable]
          exact List.mem_append_right before List.mem_cons_self
        exact fun hnone => upperExpansions_ne_nil _ hmem (List.map_eq_nil_iff.mp hnone)
      · exact List.cons_ne_nil _ _

/-- Only an empty text has an empty upper-case form. -/
theorem upperChars_eq_nil_iff (cs : List Char) : upperChars cs = [] ↔ cs = [] := by
  cases cs with
  | nil => simp only [upperChars_nil]
  | cons c rest =>
    rw [upperChars_cons, List.append_eq_nil_iff]
    exact ⟨fun h => absurd h.1 (upperChar_ne_nil c), fun h => absurd h (List.cons_ne_nil c rest)⟩

/-- Nothing is left of a text by trimming and upper-casing exactly if the text is blank. -/
theorem isEmpty_upper_trim (s : String) : (upper (trim s)).isEmpty = isBlankText s := by
  rw [Bool.eq_iff_iff, String.isEmpty_iff, ← String.toList_eq_nil_iff, toList_upper, toList_trim,
    upperChars_eq_nil_iff, trimChars_eq_nil_iff]
  rfl

end DistrictAtlas.Text
