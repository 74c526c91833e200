import DistrictAtlas.Rules.Lookup

/-!
# Continuations of a stem

What it means that a code goes on from a stem, said on the written code alone: by a letter and
anything behind it, or by anything at all. The tests of the lookup decide exactly these two
relations, and the relations can therefore be evaluated.
-/

namespace DistrictAtlas.Rule

/-- The code is the stem, or the stem with one of the twenty-six letters behind it and anything
further. -/
def ContinuesByLetter (stem code : List Char) : Prop :=
  code = stem ∨ ∃ letter rest, 'A' ≤ letter ∧ letter ≤ 'Z' ∧ code = stem ++ letter :: rest

/-- The test of a letter asks for the span from the first to the last capital letter. -/
theorem isLetter_iff (c : Char) : isLetter c = true ↔ 'A' ≤ c ∧ c ≤ 'Z' := by
  simp only [isLetter, Bool.and_eq_true, decide_eq_true_eq]

/-- Behind its stem a code is judged by the next character alone, and the end of the code counts. -/
theorem fitsLetter_append (stem rest : List Char) :
    fitsLetter stem (stem ++ rest) = rest.head?.all isLetter := by
  have hp : stem.isPrefixOf (stem ++ rest) = true :=
    List.isPrefixOf_iff_prefix.mpr (List.prefix_append stem rest)
  unfold fitsLetter
  rw [hp, List.drop_left]
  cases rest with
  | nil => rfl
  | cons c rest => rfl

/-- A code that does not begin with the stem never fits. -/
theorem fitsLetter_eq_false {stem code : List Char} (h : ¬stem <+: code) :
    fitsLetter stem code = false := by
  have hp : stem.isPrefixOf code = false :=
    Bool.eq_false_iff.mpr fun he => h (List.isPrefixOf_iff_prefix.mp he)
  unfold fitsLetter
  rw [hp, Bool.false_and]

/-- The test for continuations by a letter decides the relation. -/
theorem fitsLetter_iff (stem code : List Char) :
    fitsLetter stem code = true ↔ ContinuesByLetter stem code := by
  constructor
  · intro h
    by_cases hp : stem <+: code
    · obtain ⟨rest, rfl⟩ := hp
      rw [fitsLetter_append] at h
      cases rest with
      | nil => exact Or.inl (List.append_nil stem)
      | cons c rest =>
        obtain ⟨hlow, hhigh⟩ := (isLetter_iff c).mp h
        exact Or.inr ⟨c, rest, hlow, hhigh, rfl⟩
    · rw [fitsLetter_eq_false hp] at h
      exact absurd h Bool.false_ne_true
  · rintro (rfl | ⟨c, rest, hlow, hhigh, rfl⟩)
    · have h := fitsLetter_append code []
      rwa [List.append_nil] at h
    · rw [fitsLetter_append]
      exact (isLetter_iff c).mpr ⟨hlow, hhigh⟩

/-- The test for all continuations asks whether the code begins with the stem. -/
theorem fitsAny_iff (stem code : List Char) : fitsAny stem code = true ↔ stem <+: code :=
  List.isPrefixOf_iff_prefix

/-- Whether a code continues a stem by a letter is found by the test. -/
instance (stem code : List Char) : Decidable (ContinuesByLetter stem code) :=
  decidable_of_iff _ (fitsLetter_iff stem code)

end DistrictAtlas.Rule
