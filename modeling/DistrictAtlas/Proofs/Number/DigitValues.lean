import DistrictAtlas.Number.Digits
import Mathlib.Data.Nat.Digits.Defs

/-!
# The numbers that digits write

Digits write the number that the library reads from them: below the power of ten with as many zeros as
there are digits, and zero only with zeros. A number with no more digits than are written or read is not
too long.
-/

namespace DistrictAtlas.Digits

/-- The ten digits are those of the library. -/
theorem isDigit_eq (c : Char) : isDigit c = c.isDigit := rfl

/-- Digits write the number that the library reads from them. -/
theorem toNat_eq (digits : List Char) : toNat digits = Nat.ofDigitChars 10 digits 0 := rfl

/-- A digit in front adds its value as often as the digits behind it say. -/
theorem ofDigitChars_cons_zero (c : Char) (rest : List Char) :
    Nat.ofDigitChars 10 (c :: rest) 0 =
      10 ^ rest.length * (c.toNat - '0'.toNat) + Nat.ofDigitChars 10 rest 0 := by
  rw [Nat.ofDigitChars_cons, Nat.ofDigitChars_eq_ofDigitChars_zero, Nat.mul_zero, Nat.zero_add]

/-- A number is below the power of ten with as many zeros as it has digits. -/
theorem ofDigitChars_lt_pow {digits : List Char} (h : ∀ c ∈ digits, c.isDigit = true) :
    Nat.ofDigitChars 10 digits 0 < 10 ^ digits.length := by
  induction digits with
  | nil => exact Nat.one_pos
  | cons c rest ih =>
    obtain ⟨hc, hrest⟩ := List.forall_mem_cons.mp h
    have hbelow := ih hrest
    have hvalue : c.toNat - '0'.toNat ≤ 9 :=
      Nat.sub_le_of_le_add (Char.isDigit_iff_toNat.mp hc).2
    have hmul := Nat.mul_le_mul_left (10 ^ rest.length) hvalue
    rw [ofDigitChars_cons_zero, List.length_cons, Nat.pow_succ]
    omega

/-- Digits write zero exactly if all of them are zeros. -/
theorem ofDigitChars_eq_zero_iff {digits : List Char} (h : ∀ c ∈ digits, c.isDigit = true) :
    Nat.ofDigitChars 10 digits 0 = 0 ↔ ∀ c ∈ digits, c = '0' := by
  induction digits with
  | nil => exact iff_of_true rfl nofun
  | cons c rest ih =>
    obtain ⟨hc, hrest⟩ := List.forall_mem_cons.mp h
    have hzero : c.toNat - '0'.toNat = 0 ↔ c = '0' := by
      rw [Nat.sub_eq_zero_iff_le, ← Char.toNat_inj]
      exact ⟨fun hle => Nat.le_antisymm hle (Char.isDigit_iff_toNat.mp hc).1, Nat.le_of_eq⟩
    have hpow : 10 ^ rest.length ≠ 0 := Nat.ne_of_gt (Nat.pow_pos (by decide))
    rw [ofDigitChars_cons_zero, Nat.add_eq_zero_iff, Nat.mul_eq_zero, or_iff_right hpow, hzero,
      ih hrest, List.forall_mem_cons]

/-- The digits of a number are digits. -/
theorem isDigit_of_mem_ofNat {n : Nat} {c : Char} (h : c ∈ ofNat n) : isDigit c = true :=
  Nat.isDigit_of_mem_toDigits (by decide) (by decide) h

/-- The digits of a number are its text. -/
theorem ofList_ofNat (n : Nat) : String.ofList (ofNat n) = toString n :=
  Nat.toString_eq_ofList_toDigits.symm

/-- Different numbers have different digits. -/
theorem ofNat_injective {n m : Nat} (h : ofNat n = ofNat m) : n = m := by
  have hvalue := congrArg (Nat.ofDigitChars 10 · 0) h
  have hn : Nat.ofDigitChars 10 (ofNat n) 0 = n := Nat.ofDigitChars_ten_toDigits
  have hm : Nat.ofDigitChars 10 (ofNat m) 0 = m := Nat.ofDigitChars_ten_toDigits
  exact hn.symm.trans (hvalue.trans hm)

/-- A number with no more places than are written is not too long. -/
theorem tooLong_eq_false {n : Int} {places : Nat} (hplaces : places ≤ limit)
    (h : n.natAbs < 10 ^ places) : tooLong n = false := by
  have hless : ∀ most, places ≤ most → decide (Nat.pow 10 most ≤ n.natAbs) = false :=
    fun most hmost => decide_eq_false <| Nat.not_le_of_lt <|
      Nat.lt_of_lt_of_le h (Nat.pow_le_pow_right (by decide) hmost)
  exact hless limit hplaces

/-- A number with no more digits than are written is not too long. -/
theorem tooLong_of_length_le {n : Int} (h : (ofNat n.natAbs).length ≤ limit) :
    tooLong n = false := by
  refine tooLong_eq_false (Nat.le_refl limit) ?_
  exact (Nat.length_toDigits_le_iff (by decide) (by decide)).mp h

/-- Digits that are read write a number that is not too long. -/
theorem tooLong_of_read {digits : List Char} {n : Nat} (hdigits : ∀ c ∈ digits, c.isDigit = true)
    (h : read digits = .ok n) {m : Int} (hm : m.natAbs = n) : tooLong m = false := by
  unfold read at h
  split at h
  · cases h
  · next hlength =>
    refine tooLong_eq_false (Nat.not_lt.mp hlength) ?_
    rw [hm, ← Except.ok.inj h, toNat_eq]
    exact ofDigitChars_lt_pow hdigits

end DistrictAtlas.Digits
