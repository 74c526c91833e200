import DistrictAtlas.Proofs.Number.Doubles
import Mathlib.Algebra.Order.Field.Power
import Mathlib.Algebra.Order.Ring.Rat

/-!
# The values of doubles

Which number a finite double stands for. Not-a-number and the infinities stand for none, and do not
lie between zero and one either; a finite double is found there exactly if its number lies there.
-/

namespace DistrictAtlas.Binary64

/-- The number that a finite double stands for. -/
def value? : Binary64 → Option ℚ
  | finite negative significand power => some (signed negative significand * 2 ^ power)
  | _ => none

/-- The number lies between zero and one, ends included. -/
def IsShare (x : Binary64) : Prop :=
  ∃ value, x.value? = some value ∧ 0 ≤ value ∧ value ≤ 1

/-- Times a power of two that is no greater than one, a significand is at most one if it is no
greater than the inverse of that power. -/
theorem mul_two_zpow_le_one_iff {significand : Nat} {power : Int} (hpower : power ≤ 0) :
    (significand : ℚ) * 2 ^ power ≤ 1 ↔ significand ≤ 2 ^ power.natAbs := by
  obtain ⟨n, rfl⟩ : ∃ n : Nat, power = -n := ⟨power.natAbs, by omega⟩
  rw [zpow_neg, zpow_natCast, ← div_eq_mul_inv, div_le_one₀ (pow_pos zero_lt_two _),
    Int.natAbs_neg, Int.natAbs_natCast]
  exact_mod_cast Iff.rfl

/-- A finite double without a sign is found between zero and one by its significand. -/
theorem isUnit_positive_iff (significand : Nat) (power : Int) :
    (finite false significand power).isUnit = true ↔
      power ≤ 0 ∧ significand ≤ 2 ^ power.natAbs := by
  simp [isUnit, isNonnegative, isAtMostOne]

/-- Of the finite doubles with a sign, the zeros alone are found there. -/
theorem isUnit_negative_iff (significand : Nat) (power : Int) :
    (finite true significand power).isUnit = true ↔ significand = 0 := by
  simp [isUnit, isNonnegative, isAtMostOne]

/-- Doubles that are found between zero and one stand for such a number. -/
theorem isShare_of_isUnit {x : Binary64} (h : x.isUnit = true) : x.IsShare := by
  cases x with
  | nan => cases h
  | infinite negative => cases negative <;> cases h
  | finite negative significand power =>
    refine ⟨_, rfl, ?_⟩
    cases negative with
    | true =>
      rw [(isUnit_negative_iff significand power).mp h]
      simp [signed]
    | false =>
      obtain ⟨hpower, hbound⟩ := (isUnit_positive_iff significand power).mp h
      rw [signed, if_neg Bool.false_ne_true, Int.cast_natCast]
      exact ⟨mul_nonneg (Nat.cast_nonneg _) (zpow_nonneg zero_le_two _),
        (mul_two_zpow_le_one_iff hpower).mpr hbound⟩

/-- A number of the format that stands for one between zero and one is found there. -/
theorem isUnit_of_isShare {x : Binary64} (hx : x.IsDouble) (h : x.IsShare) : x.isUnit = true := by
  obtain ⟨value, hvalue, hnonneg, hone⟩ := h
  cases x with
  | nan => cases hvalue
  | infinite negative => cases hvalue
  | finite negative significand power =>
    cases hvalue
    have hscale : (0 : ℚ) < 2 ^ power := zpow_pos zero_lt_two _
    cases negative with
    | true =>
      rw [isUnit_negative_iff]
      rw [mul_nonneg_iff_of_pos_right hscale, signed, if_pos rfl] at hnonneg
      have hsigned : (0 : Int) ≤ -(significand : Int) := by exact_mod_cast hnonneg
      omega
    | false =>
      rw [signed, if_neg Bool.false_ne_true, Int.cast_natCast] at hone
      -- a significand of fifty-three digits at a positive power is far above one
      have hpower : power ≤ 0 := by
        by_contra hpositive
        have hlarge : 2 ^ 52 ≤ significand := hx.normal.resolve_right (by
          rintro rfl
          exact hpositive (by decide))
        have hsignificand : (1 : ℚ) < significand := by
          exact_mod_cast (by omega : 1 < significand)
        have hfactor : (1 : ℚ) ≤ 2 ^ power := one_le_zpow₀ one_le_two (by omega)
        exact absurd hone (not_le.mpr (lt_of_lt_of_le hsignificand
          (le_mul_of_one_le_right (Nat.cast_nonneg _) hfactor)))
      exact (isUnit_positive_iff significand power).mpr
        ⟨hpower, (mul_two_zpow_le_one_iff hpower).mp hone⟩

end DistrictAtlas.Binary64
