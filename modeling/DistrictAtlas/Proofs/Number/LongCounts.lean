import DistrictAtlas.Rules.Count
import Mathlib.Data.List.TakeWhile
import Mathlib.Data.Nat.Digits.Defs

/-!
# Long counts

A count is read from a numeral of any length, but a number is written only up to a certain one. So a
numeral with more digits than are written, the first of them not zero, is read as a count that cannot
be written again.
-/

namespace DistrictAtlas

namespace Digits

/-- Digits behind a number make it larger by as many places. -/
theorem mul_pow_le_foldl (n : Nat) (digits : List Char) :
    n * 10 ^ digits.length ≤ digits.foldl (fun n c => 10 * n + value c) n := by
  induction digits generalizing n with
  | nil => exact Nat.le_of_eq (Nat.mul_one n)
  | cons c rest ih =>
    calc n * 10 ^ (rest.length + 1)
      _ = 10 * n * 10 ^ rest.length := by rw [Nat.pow_succ', ← Nat.mul_assoc, Nat.mul_comm n 10]
      _ ≤ (10 * n + value c) * 10 ^ rest.length := Nat.mul_le_mul_right _ (Nat.le_add_right _ _)
      _ ≤ rest.foldl (fun n c => 10 * n + value c) (10 * n + value c) := ih _

/-- A number is at least as large as its places say, unless it begins with zero. -/
theorem pow_le_toNat {c : Char} {rest : List Char} (hc : 0 < value c) {places : Nat}
    (hplaces : places ≤ rest.length) : 10 ^ places ≤ toNat (c :: rest) :=
  calc 10 ^ places
    _ ≤ 10 ^ rest.length := Nat.pow_le_pow_right (by decide) hplaces
    _ ≤ value c * 10 ^ rest.length := Nat.le_mul_of_pos_left _ hc
    _ ≤ rest.foldl (fun n c => 10 * n + value c) (value c) := mul_pow_le_foldl (value c) rest
    _ = toNat (c :: rest) := by rw [toNat, List.foldl_cons, Nat.mul_zero, Nat.zero_add]

/-- A number of more digits than are written is too long, unless it begins with zero. -/
theorem tooLong_toNat {c : Char} {rest : List Char} (hc : 0 < value c)
    (hlength : limit ≤ rest.length) : tooLong (toNat (c :: rest)) = true := by
  have hlong : ∀ places, places ≤ rest.length →
      decide (Nat.pow 10 places ≤ (toNat (c :: rest) : Int).natAbs) = true :=
    fun places hplaces => decide_eq_true (pow_le_toNat hc hplaces)
  exact hlong limit hlength

end Digits

namespace Count

/-- A digit is no sign. -/
theorem sign_digit {c : Char} (hc : Digits.isDigit c = true) (rest : List Char) :
    sign (c :: rest) = (false, c :: rest) := by
  have hminus : c ≠ '-' := by
    rintro rfl
    cases hc
  have hplus : c ≠ '+' := by
    rintro rfl
    cases hc
  unfold sign
  split
  · next heq => exact absurd (List.cons.inj heq).1 hminus
  · next heq => exact absurd (List.cons.inj heq).1 hplus
  · rfl

/-- A numeral of digits only counts as the number that it writes. -/
theorem read_digits {c : Char} {rest : List Char}
    (hdigits : ∀ d ∈ c :: rest, Digits.isDigit d = true) :
    read (String.ofList (c :: rest)) = ⟨Digits.toNat (c :: rest), false⟩ := by
  have hfilter : (c :: rest).filter isNumeral = c :: rest := by
    refine List.filter_eq_self.mpr fun d hd => ?_
    rw [isNumeral, hdigits d hd]
    rfl
  have hplaces : places? (c :: rest) = some (c :: rest, []) := by
    unfold places?
    rw [List.takeWhile_eq_self_iff.mpr hdigits, List.dropWhile_eq_nil_iff.mpr hdigits]
    rfl
  have hnumeral : numeral? (c :: rest) = some (Digits.toNat (c :: rest)) := by
    rw [numeral?, sign_digit (hdigits c List.mem_cons_self)]
    dsimp only
    rw [hplaces]
    rfl
  rw [read, String.toList_ofList, hfilter]
  dsimp only
  rw [hnumeral]

end Count

end DistrictAtlas
