import DistrictAtlas.Number.Shortest
import DistrictAtlas.Proofs.Number.Doubles

/-!
# The text of a double is short

A double is below a fixed power of ten, and the decimal that stands for it is sought at places not
far from its first digit. So neither the digits of this decimal nor its power of ten can grow beyond
a fixed size, and neither can the text. The bound is far from the best one, but it does not depend
on which decimal is found.
-/

namespace DistrictAtlas.Shortest

/-- The digits of a number that is below a power of ten. -/
theorem length_ofNat_le {n k : Nat} (hk : 0 < k) (h : n < 10 ^ k) : (Digits.ofNat n).length ≤ k :=
  (Nat.length_toDigits_le_iff (by decide) hk).mpr h

/-- No more places are counted than the fuel allows. -/
theorem leadingZeros_le (fuel count num den : Nat) :
    leadingZeros fuel count num den ≤ count + fuel := by
  induction fuel generalizing count num with
  | zero => exact Nat.le_refl count
  | succ fuel ih =>
    rw [leadingZeros]
    split
    · exact Nat.le_add_right count (fuel + 1)
    · have hrest := ih (count + 1) (num * 10)
      omega

/-- The first digit of a quotient whose numerator is below a power of ten. -/
theorem leadingPower_bounds {num k : Nat} (hk : 0 < k) (h : num < 10 ^ k) (den : Nat) :
    -401 ≤ leadingPower num den ∧ leadingPower num den < k := by
  unfold leadingPower
  split
  · have hlength := length_ofNat_le hk (Nat.lt_of_le_of_lt (Nat.div_le_self num den) h)
    omega
  · have hzeros := leadingZeros_le 400 0 num den
    omega

/-- Scaling a quotient by a power of ten makes it no greater than its numerator times this power. -/
theorem scaleUp_div_le (num den : Nat) (power : Int) :
    (scaleUp num den power).1 / (scaleUp num den power).2 ≤ num * 10 ^ power.natAbs := by
  unfold scaleUp
  split
  · exact (Nat.div_le_self _ _).trans (Nat.le_mul_of_pos_right num (Nat.pow_pos (by decide)))
  · exact Nat.div_le_self _ _

namespace Neighbourhood

/-- A decimal that is found at a place has its last digit there, and no more digits than the double
has down to this place. -/
theorem of_atPlace {near : Neighbourhood} {power : Int} {decimal : Decimal}
    (h : near.atPlace power = some decimal) :
    decimal.power = power ∧ decimal.digits ≤ near.mid * 10 ^ power.natAbs + 1 := by
  have hquotient := scaleUp_div_le near.mid near.den (-power)
  rw [Int.natAbs_neg] at hquotient
  unfold atPlace at h
  dsimp only at h
  split at h
  · split at h
    · cases h
      exact ⟨rfl, Nat.le_succ_of_le hquotient⟩
    · cases h
      exact ⟨rfl, Nat.succ_le_succ hquotient⟩
  · cases h
    exact ⟨rfl, Nat.le_succ_of_le hquotient⟩
  · cases h
    exact ⟨rfl, Nat.succ_le_succ hquotient⟩
  · cases h

/-- The decimal that stands for a double below `10 ^ k` has its last digit at one of the places that
are tried, and these bound its digits. -/
theorem shortest_bounds {near : Neighbourhood} {k : Nat} (hk : 0 < k) (h : near.mid < 10 ^ k)
    {places : Nat} (hkp : k ≤ places) (hplaces : 417 ≤ places) :
    near.shortest.power.natAbs ≤ places ∧ near.shortest.digits ≤ near.mid * 10 ^ places + 1 := by
  have hleading := leadingPower_bounds hk h near.den
  unfold shortest
  dsimp only
  cases hfound : (List.range 17).findSome? fun (i : Nat) =>
      near.atPlace (leadingPower near.mid near.den - i) with
  | none =>
    have hmid : near.mid ≤ near.mid * 10 ^ places :=
      Nat.le_mul_of_pos_right near.mid (Nat.pow_pos (by decide))
    exact ⟨Nat.zero_le _, Nat.le_succ_of_le ((Nat.div_le_self _ _).trans hmid)⟩
  | some decimal =>
    obtain ⟨i, hi, hplace⟩ := List.exists_of_findSome?_eq_some hfound
    have hlast := List.mem_range.mp hi
    obtain ⟨hpower, hdigits⟩ := of_atPlace hplace
    have hpower' : decimal.power.natAbs ≤ places := by omega
    have hscale : near.mid * 10 ^ decimal.power.natAbs ≤ near.mid * 10 ^ places :=
      Nat.mul_le_mul_left _ (Nat.pow_le_pow_right (by decide) hpower')
    rw [← hpower] at hdigits
    exact ⟨hpower', hdigits.trans (Nat.succ_le_succ hscale)⟩

/-- So many digits it has at most. -/
theorem digits_shortest_lt {near : Neighbourhood} {k : Nat} (hk : 0 < k) (h : near.mid < 10 ^ k)
    {places : Nat} (hkp : k ≤ places) (hplaces : 417 ≤ places) :
    near.shortest.digits < 10 ^ (k + places + 1) := by
  calc near.shortest.digits
      ≤ near.mid * 10 ^ places + 1 := (shortest_bounds hk h hkp hplaces).2
    _ ≤ near.mid * 10 ^ places + 10 ^ places := Nat.add_le_add_left (Nat.pow_pos (by decide)) _
    _ = (near.mid + 1) * 10 ^ places := (Nat.succ_mul _ _).symm
    _ ≤ 10 ^ k * 10 ^ places := Nat.mul_le_mul_right _ (Nat.succ_le_of_lt h)
    _ = 10 ^ (k + places) := (Nat.pow_add 10 k places).symm
    _ < 10 ^ (k + places + 1) := Nat.pow_lt_pow_right (by decide) (Nat.lt_succ_self _)

end Neighbourhood

/-- The middle of a neighbourhood, where the power of two is not too great. -/
theorem mid_neighbourhood_lt {significand : Nat} {power : Int} (exponent : Nat)
    (hsignificand : significand < 2 ^ 53) (hpower : power ≤ exponent + 2) :
    (neighbourhood significand power).mid < 10 ^ (55 + exponent) := by
  have hunit : (if power - 2 < 0 then 1 else Nat.pow 2 (power - 2).natAbs) ≤ 2 ^ exponent := by
    split
    · exact Nat.one_le_two_pow
    · exact Nat.pow_le_pow_right (by decide) (by omega)
  have hfour : 4 * significand < 2 ^ 55 := by omega
  calc (neighbourhood significand power).mid
      < 2 ^ 55 * 2 ^ exponent :=
        Nat.mul_lt_mul_of_lt_of_le hfour hunit (Nat.pow_pos (by decide))
    _ = 2 ^ (55 + exponent) := (Nat.pow_add 2 55 exponent).symm
    _ ≤ 10 ^ (55 + exponent) := Nat.pow_le_pow_left (by decide) _

/-- Leaving out final zeros does not add a digit. -/
theorem length_withoutFinalZeros_le (digits : List Char) :
    (withoutFinalZeros digits).length ≤ digits.length := by
  unfold withoutFinalZeros
  rw [List.length_reverse]
  exact ((List.dropWhile_sublist _).length_le).trans_eq List.length_reverse

/-- A layout has little beside the digits and the exponent. -/
theorem length_layout_le (digits : List Char) (leading : Int) :
    (layout digits leading).length ≤
      digits.length + (Digits.ofNat leading.natAbs).length + 18 := by
  unfold layout
  split
  · simp only [List.length_cons, List.length_append, List.length_replicate]
    omega
  split
  · dsimp only
    split
    · simp only [List.length_append, List.length_replicate, List.length_cons, List.length_nil]
      omega
    · simp only [List.length_append, List.length_cons, List.length_take, List.length_drop]
      omega
  · have hpadded : ∀ exponent : List Char,
        (if exponent.length < 2 then '0' :: exponent else exponent).length ≤
          exponent.length + 1 := by
      intro exponent
      split
      · exact Nat.le_refl _
      · exact Nat.le_succ _
    have hexponent := hpadded (Digits.ofNat leading.natAbs)
    have hrest := congrArg List.length (List.take_append_drop 1 digits)
    rw [List.length_append] at hrest
    dsimp only
    split
    · simp only [List.length_append, List.length_cons, List.length_nil]
      omega
    · simp only [List.length_append, List.length_cons]
      omega

/-- The digits of a double with point and exponent. -/
theorem length_unsigned_le {significand : Nat} {power : Int}
    (h : Binary64.IsNormalForm significand power) : (unsigned significand power).length ≤ 2071 := by
  have hmid := mid_neighbourhood_lt 969 h.significand_lt h.le_greatestPower
  have hplaces : 55 + 969 ≤ 1024 := by decide
  have hpower := (Neighbourhood.shortest_bounds (by decide) hmid hplaces (by decide)).1
  have hdigits := Neighbourhood.digits_shortest_lt (by decide) hmid hplaces (by decide)
  unfold unsigned
  split
  · decide
  · have hlength := length_ofNat_le (by decide) hdigits
    have hfinal := length_withoutFinalZeros_le
      (Digits.ofNat (neighbourhood significand power).shortest.digits)
    have hexponent : (Digits.ofNat ((neighbourhood significand power).shortest.power +
        (Digits.ofNat (neighbourhood significand power).shortest.digits).length - 1).natAbs).length
          ≤ 4 := length_ofNat_le (by decide) (by omega)
    refine (length_layout_le _ _).trans ?_
    omega

end DistrictAtlas.Shortest

namespace DistrictAtlas.Binary64

/-- The text of a double in tables is short. -/
theorem length_text_le {x : Binary64} (h : x.IsDouble) :
    (x.text plainSpelling).length ≤ 2072 := by
  cases x with
  | nan => decide
  | infinite negative => cases negative <;> decide
  | finite negative significand power =>
    have hdigits := Shortest.length_unsigned_le h
    rw [text, String.length_ofList]
    cases negative with
    | true =>
      rw [if_pos rfl, List.length_cons]
      omega
    | false =>
      rw [if_neg Bool.false_ne_true]
      omega

end DistrictAtlas.Binary64
