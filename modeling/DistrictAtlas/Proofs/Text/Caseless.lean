import DistrictAtlas.Proofs.Text.Cutting
import DistrictAtlas.Proofs.Text.Tidying
import DistrictAtlas.Proofs.Text.UpperCase

/-!
# What upper-casing leaves alone

Blanks, and the characters of ASCII that are no letters, are their own upper-case forms and come up
in those of no other characters, over the whole of the case tables. So it makes no difference
whether a text is trimmed, or cut at such a character, before it is put in upper case or after.
-/

namespace DistrictAtlas.Text

/-- Whether the character is a blank, or one of ASCII that is no letter. -/
def isNeutral (c : Char) : Bool :=
  isBlank c || (c.toNat < 0x80 && !c.isAlpha)

/-- A blank is neutral. -/
theorem isNeutral_of_isBlank {c : Char} (h : isBlank c = true) : isNeutral c = true := by
  rw [isNeutral, h, Bool.true_or]

/-- The rule for ASCII leaves neutral characters as they are. -/
theorem toUpper_of_isNeutral : ∀ code < 0x80, isNeutral (Char.ofNat code) = true →
    (Char.ofNat code).toUpper = Char.ofNat code := by decide

/-- The rule for ASCII makes no character neutral. -/
theorem isNeutral_toUpper : ∀ code < 0x80, isNeutral (Char.ofNat code).toUpper = true →
    (Char.ofNat code).toUpper = Char.ofNat code := by decide

/-- No character that the tables change is neutral. -/
theorem not_isNeutral_casedCodes : ∀ code ∈ casedCodes, isNeutral (Char.ofNat code) = false := by
  decide +kernel

/-- No character that the tables give is neutral. -/
theorem not_isNeutral_formCodes : ∀ code ∈ formCodes, isNeutral (Char.ofNat code) = false := by
  decide +kernel

/-- A neutral character is its own upper-case form. -/
theorem isUpper_of_isNeutral {c : Char} (h : isNeutral c = true) : IsUpper c := by
  have hself : Char.ofNat c.toNat = c := Char.ofNat_toNat c
  apply isUpper_of_not_mem
  · intro hascii
    have hupper := toUpper_of_isNeutral c.toNat hascii
    rw [hself] at hupper
    exact hupper h
  · intro hcased
    have hnot := not_isNeutral_casedCodes c.toNat hcased
    rw [hself, h] at hnot
    cases hnot

/-- A neutral character comes up in no other character's upper-case form. -/
theorem eq_of_mem_upperChar {c d : Char} (hd : isNeutral d = true) (h : d ∈ upperChar c) :
    d = c := by
  rcases mem_upperChar_cases h with ⟨hascii, rfl⟩ | ⟨code, hcode, rfl⟩ | ⟨hself, -⟩
  · have hupper := isNeutral_toUpper c.toNat hascii
    rw [Char.ofNat_toNat] at hupper
    exact hupper hd
  · rw [not_isNeutral_formCodes code hcode] at hd
    cases hd
  · exact hself

/-- An upper-cased text has a neutral character exactly if the text has it. -/
theorem mem_upperChars_iff {d : Char} (hd : isNeutral d = true) (cs : List Char) :
    d ∈ upperChars cs ↔ d ∈ cs := by
  constructor
  · intro h
    obtain ⟨c, hc, hform⟩ := List.mem_flatMap.mp h
    rwa [eq_of_mem_upperChar hd hform]
  · intro h
    have hform : upperChar d = [d] := isUpper_of_isNeutral hd
    exact List.mem_flatMap.mpr ⟨d, h, by rw [hform]; exact List.mem_singleton_self d⟩

/-- A text ends in a neutral character if its upper-case form does. -/
theorem exists_of_upperChars_eq_concat {cs form : List Char} {d : Char} (hd : isNeutral d = true)
    (h : upperChars cs = form ++ [d]) : ∃ body, cs = body ++ [d] ∧ upperChars body = form := by
  rcases List.eq_nil_or_concat' cs with rfl | ⟨body, last, rfl⟩
  · exact absurd h.symm (List.concat_ne_nil d form)
  · obtain ⟨behind, e, hform⟩ :=
      (List.eq_nil_or_concat' (upperChar last)).resolve_left (upperChar_ne_nil last)
    have hlast : upperChars [last] = upperChar last := List.append_nil _
    rw [upperChars_append, hlast, hform, ← List.append_assoc] at h
    obtain ⟨hfront, hend⟩ := List.append_inj' h rfl
    cases hend
    have hsame : d = last := eq_of_mem_upperChar hd (hform ▸ List.mem_concat_self)
    have hself : upperChar last = [] ++ [d] := hsame ▸ isUpper_of_isNeutral hd
    rw [hself] at hform
    obtain ⟨hnone, -⟩ := List.append_inj' hform rfl
    rw [← hnone, List.append_nil] at hfront
    exact ⟨body, by rw [hsame], hfront⟩

/-- The characters of an upper-case form are blank exactly if the character is. -/
theorem isBlank_of_mem_upperChar {c d : Char} (h : d ∈ upperChar c) : isBlank d = isBlank c := by
  by_cases hd : isBlank d = true
  · rw [eq_of_mem_upperChar (isNeutral_of_isBlank hd) h]
  · by_cases hc : isBlank c = true
    · have hform : upperChar c = [c] := isUpper_of_isNeutral (isNeutral_of_isBlank hc)
      rw [hform, List.mem_singleton] at h
      rw [h]
    · rw [Bool.eq_false_iff.mpr hd, Bool.eq_false_iff.mpr hc]

section Expanding

variable {α : Type} {p : α → Bool} {expand : α → List α}

/-- Where every item becomes items of which a test says the same, items can be dropped from the
start before or after. -/
theorem dropWhile_flatMap (hne : ∀ a, expand a ≠ []) (hsame : ∀ a, ∀ b ∈ expand a, p b = p a)
    (items : List α) : (items.flatMap expand).dropWhile p = (items.dropWhile p).flatMap expand := by
  induction items with
  | nil => rfl
  | cons a rest ih =>
    rw [List.flatMap_cons, List.dropWhile_cons]
    by_cases ha : p a = true
    · have hall : ∀ b ∈ expand a, p b = true := fun b hb => (hsame a b hb).trans ha
      rw [if_pos ha, List.dropWhile_append_of_pos hall, ih]
    · rw [if_neg ha, List.flatMap_cons]
      cases hform : expand a with
      | nil => exact absurd hform (hne a)
      | cons b others =>
        have hb : p b = p a := hsame a b (by rw [hform]; exact List.mem_cons_self)
        rw [List.cons_append, List.dropWhile_cons_of_neg (by rwa [hb])]

end Expanding

/-- It makes no difference whether a text is trimmed before it is put in upper case or after. -/
theorem trimChars_upperChars (cs : List Char) :
    trimChars (upperChars cs) = upperChars (trimChars cs) := by
  have hfront : ∀ c, ∀ d ∈ upperChar c, isBlank d = isBlank c :=
    fun c d => isBlank_of_mem_upperChar
  have hback : ∀ c, ∀ d ∈ (List.reverse ∘ upperChar) c, isBlank d = isBlank c :=
    fun c d hd => isBlank_of_mem_upperChar (List.mem_reverse.mp hd)
  have hne : ∀ c, (List.reverse ∘ upperChar) c ≠ [] :=
    fun c h => upperChar_ne_nil c (List.reverse_eq_nil_iff.mp h)
  unfold trimChars upperChars
  rw [dropWhile_flatMap upperChar_ne_nil hfront, List.reverse_flatMap, dropWhile_flatMap hne hback,
    List.flatMap_reverse]

/-- It makes no difference whether a text is cut at a neutral character before it is put in upper
case or after. -/
theorem splitChars_upperChars {separator : Char} (hneutral : isNeutral separator = true)
    (cs : List Char) :
    splitChars separator (upperChars cs) = (splitChars separator cs).map upperChars := by
  induction cs with
  | nil => rfl
  | cons c rest ih =>
    rw [upperChars_cons, splitChars_cons]
    -- the separator stays alone, and the form of any other character goes to one part as a whole
    by_cases hc : c = separator
    · have hform : upperChar separator = [separator] := isUpper_of_isNeutral hneutral
      rw [hc, hform, List.singleton_append, splitChars_cons, ih, splitStep.eq_def, splitStep.eq_def,
        if_pos rfl, if_pos rfl, List.map_cons, upperChars_nil]
    · have hfree : separator ∉ upperChar c :=
        fun h => hc (eq_of_mem_upperChar hneutral h).symm
      cases hparts : splitChars separator rest with
      | nil => exact absurd hparts (splitChars_ne_nil separator rest)
      | cons part others =>
        rw [hparts, List.map_cons] at ih
        rw [splitChars_append hfree ih, splitStep, if_neg hc, List.map_cons, upperChars_cons]

end DistrictAtlas.Text
