import DistrictAtlas.Number.Binary64
import Mathlib.Data.Nat.Digits.Defs

/-!
# Numbers of the double format

Which significands and powers belong to a number of the format, and that reading and calculating
give no others. Rounding a quotient chooses a power of two at which the quotient has a whole part of
fifty-three binary digits, or the least power at which it has no more; so the significand is in
range, also after rounding it up.
-/

namespace DistrictAtlas.Binary64

/-- Significand and power of a finite number in its one normal form. -/
structure IsNormalForm (significand : Nat) (power : Int) : Prop where
  /-- The significand has at most fifty-three binary digits. -/
  significand_lt : significand < 2 ^ 53
  /-- It has no fewer, unless the power is the least. -/
  normal : 2 ^ 52 ≤ significand ∨ power = leastPower
  /-- The power is not below the least. -/
  leastPower_le : leastPower ≤ power
  /-- The power is not above the greatest. -/
  le_greatestPower : power ≤ greatestPower

/-- Whether the number is one of the format: a finite number has to be in its normal form. -/
def IsDouble : Binary64 → Prop
  | nan => True
  | infinite _ => True
  | finite _ significand power => IsNormalForm significand power

/-- A quotient of whole numbers divided by a power of two, without its fraction. -/
def wholePart (num den : Nat) (power : Int) : Nat :=
  (scaleDown num den power).1 / (scaleDown num den power).2

/-- Whether the whole part at a power of two, which is a difference `q - e`, is below another power
can be told from products. -/
theorem wholePart_lt_iff {num den : Nat} (hden : 0 < den) (k q e : Nat) :
    wholePart num den (q - e) < 2 ^ k ↔ num * 2 ^ e < 2 ^ (k + q) * den := by
  unfold wholePart scaleDown
  split
  · next hneg =>
    obtain ⟨d, rfl⟩ : ∃ d, e = q + d := ⟨e - q, by omega⟩
    have hd : ((q : Int) - (q + d : Nat)).natAbs = d := by omega
    have hleft : num * 2 ^ (q + d) = num * 2 ^ d * 2 ^ q := by
      rw [Nat.add_comm, Nat.pow_add, Nat.mul_assoc]
    have hright : 2 ^ (k + q) * den = 2 ^ k * den * 2 ^ q := by
      rw [Nat.pow_add, Nat.mul_right_comm]
    dsimp only
    rw [hd, Nat.pow_eq, Nat.div_lt_iff_lt_mul hden, hleft, hright,
      Nat.mul_lt_mul_right (Nat.two_pow_pos q)]
  · next hneg =>
    obtain ⟨d, rfl⟩ : ∃ d, q = e + d := ⟨q - e, by omega⟩
    have hd : (((e + d : Nat) : Int) - e).natAbs = d := by omega
    have hright : 2 ^ (k + (e + d)) * den = 2 ^ k * (den * 2 ^ d) * 2 ^ e := by
      rw [Nat.pow_add, Nat.pow_add]
      ac_rfl
    dsimp only
    rw [hd, Nat.pow_eq, Nat.div_lt_iff_lt_mul (Nat.mul_pos hden (Nat.two_pow_pos d)), hright,
      Nat.mul_lt_mul_right (Nat.two_pow_pos e)]

/-- Every power is such a difference. -/
theorem exists_sub (power : Int) : ∃ q e : Nat, power = q - e :=
  ⟨power.toNat, (-power).toNat, (Int.toNat_sub_toNat_neg power).symm⟩

/-- At a greater power the whole part is no greater. -/
theorem wholePart_lt_of_le {num den k : Nat} (hden : 0 < den) {power greater : Int}
    (hle : power ≤ greater) (h : wholePart num den power < 2 ^ k) :
    wholePart num den greater < 2 ^ k := by
  obtain ⟨q, e, rfl⟩ := exists_sub power
  obtain ⟨d, hd⟩ := Int.le.dest hle
  have hgreater : greater = (q + d : Nat) - e := by omega
  rw [wholePart_lt_iff hden] at h
  rw [hgreater, wholePart_lt_iff hden]
  refine h.trans_le (Nat.mul_le_mul_right den (Nat.pow_le_pow_right Nat.two_pos ?_))
  omega

/-- At the power below, the whole part has one binary digit more. -/
theorem wholePart_pred_lt_iff {num den : Nat} (hden : 0 < den) (k : Nat) (power : Int) :
    wholePart num den (power - 1) < 2 ^ (k + 1) ↔ wholePart num den power < 2 ^ k := by
  obtain ⟨q, e, rfl⟩ := exists_sub power
  have hpred : (q : Int) - e - 1 = q - (e + 1 : Nat) := by omega
  have hleft : num * 2 ^ (e + 1) = num * 2 ^ e * 2 := by rw [Nat.pow_succ, Nat.mul_assoc]
  have hright : 2 ^ (k + 1 + q) * den = 2 ^ (k + q) * den * 2 := by
    rw [Nat.add_right_comm, Nat.pow_succ, Nat.mul_right_comm]
  rw [hpred, wholePart_lt_iff hden, wholePart_lt_iff hden, hleft, hright,
    Nat.mul_lt_mul_right Nat.two_pos]

/-- At the difference of their sizes less fifty-two, a quotient has a whole part of fifty-two or
fifty-three binary digits. -/
theorem wholePart_guess {num den : Nat} (hnum : num ≠ 0) (hden : den ≠ 0) :
    2 ^ 51 ≤ wholePart num den ((num.log2 : Int) - (den.log2 : Int) - 52) ∧
      wholePart num den ((num.log2 : Int) - (den.log2 : Int) - 52) < 2 ^ 53 := by
  have hpos := Nat.pos_of_ne_zero hden
  have hguess : (num.log2 : Int) - (den.log2 : Int) - 52 = num.log2 - (den.log2 + 52 : Nat) := by
    omega
  rw [hguess, ← Nat.not_lt, wholePart_lt_iff hpos, wholePart_lt_iff hpos, Nat.not_lt]
  constructor
  · calc 2 ^ (51 + num.log2) * den
        ≤ 2 ^ (51 + num.log2) * 2 ^ (den.log2 + 1) := Nat.mul_le_mul_left _ Nat.lt_log2_self.le
      _ = 2 ^ num.log2 * 2 ^ (den.log2 + 52) := by
        rw [← Nat.pow_add, ← Nat.pow_add]
        congr 1
        omega
      _ ≤ num * 2 ^ (den.log2 + 52) := Nat.mul_le_mul_right _ (Nat.log2_self_le hnum)
  · calc num * 2 ^ (den.log2 + 52)
        < 2 ^ (num.log2 + 1) * 2 ^ (den.log2 + 52) :=
          Nat.mul_lt_mul_of_pos_right Nat.lt_log2_self (Nat.two_pow_pos _)
      _ = 2 ^ (53 + num.log2) * 2 ^ den.log2 := by
        rw [← Nat.pow_add, ← Nat.pow_add]
        congr 1
        omega
      _ ≤ 2 ^ (53 + num.log2) * den := Nat.mul_le_mul_left _ (Nat.log2_self_le hden)

/-- At the power that is chosen, a quotient has a whole part of fifty-three binary digits, or no
more of them and the power is the least. -/
theorem wholePart_powerOf {num den : Nat} (hnum : num ≠ 0) (hden : den ≠ 0) :
    wholePart num den (powerOf num den) < 2 ^ 53 ∧
      (2 ^ 52 ≤ wholePart num den (powerOf num den) ∨ powerOf num den = leastPower) := by
  have hpos := Nat.pos_of_ne_zero hden
  obtain ⟨hlow, hhigh⟩ := wholePart_guess hnum hden
  -- the guess is right or one too great, and then the power below it has a digit more
  have hexact : ∃ power, powerOf num den = max leastPower power ∧
      2 ^ 52 ≤ wholePart num den power ∧ wholePart num den power < 2 ^ 53 := by
    by_cases hless :
        wholePart num den ((num.log2 : Int) - (den.log2 : Int) - 52) < Nat.pow 2 52
    · refine ⟨_, congrArg (max leastPower) (if_pos hless), ?_, ?_⟩
      · rw [← Nat.not_lt, wholePart_pred_lt_iff hpos 51]
        exact Nat.not_lt.mpr hlow
      · exact (wholePart_pred_lt_iff hpos 52 _).mpr hless
    · exact ⟨_, congrArg (max leastPower) (if_neg hless), Nat.not_lt.mp hless, hhigh⟩
  obtain ⟨power, hpower, hleast, hmost⟩ := hexact
  rw [hpower]
  refine ⟨wholePart_lt_of_le hpos (le_max_right leastPower power) hmost, ?_⟩
  rcases le_total leastPower power with hle | hle
  · rw [max_eq_right hle]
    exact Or.inl hleast
  · exact Or.inr (max_eq_left hle)

/-- Rounding leaves the whole part or adds one. -/
theorem divideNearest_bounds (num den : Nat) :
    num / den ≤ divideNearest num den ∧ divideNearest num den ≤ num / den + 1 := by
  unfold divideNearest
  dsimp only
  split
  · omega
  split
  · omega
  · omega

/-- Zero is a number of the format. -/
theorem isDouble_zero (negative : Bool) : (zero negative).IsDouble :=
  ⟨by decide, Or.inr rfl, le_refl _, by decide⟩

/-- A quotient is rounded to a number of the format. -/
theorem isDouble_ofRatio (negative : Bool) (num : Nat) {den : Nat} (hden : den ≠ 0) :
    (ofRatio negative num den).IsDouble := by
  have hleast : leastPower ≤ powerOf num den := le_max_left _ _
  unfold ofRatio
  split
  · exact isDouble_zero negative
  · next hnum =>
    obtain ⟨hmost, hnormal⟩ := wholePart_powerOf hnum hden
    obtain ⟨hlow, hhigh⟩ := divideNearest_bounds (scaleDown num den (powerOf num den)).1
      (scaleDown num den (powerOf num den)).2
    unfold wholePart at hmost hnormal
    dsimp only
    -- a significand that is rounded up to `2 ^ 53` is halved, and the power grows by one
    by_cases hcarry : divideNearest (scaleDown num den (powerOf num den)).1
        (scaleDown num den (powerOf num den)).2 = Nat.pow 2 53
    · rw [if_pos hcarry]
      dsimp only
      split
      · trivial
      · next hgreatest => exact ⟨by decide, Or.inl (le_refl _), by omega, not_lt.mp hgreatest⟩
    · rw [if_neg hcarry]
      dsimp only
      split
      · trivial
      · next hgreatest =>
        rw [Nat.pow_eq] at hcarry
        exact ⟨by omega, hnormal.imp_left fun h => h.trans hlow, hleast, not_lt.mp hgreatest⟩

/-- A decimal is read as a number of the format. -/
theorem isDouble_ofDecimal (negative : Bool) (digits size : Nat) (power : Int) :
    (ofDecimal negative digits size power).IsDouble := by
  unfold ofDecimal
  split
  · exact isDouble_zero negative
  split
  · trivial
  split
  · exact isDouble_zero negative
  split
  · exact isDouble_ofRatio negative digits (Nat.pow_pos (by decide)).ne'
  · exact isDouble_ofRatio negative _ Nat.one_ne_zero

/-- A whole number is converted to a number of the format. -/
theorem isDouble_ofInt (n : Int) : (ofInt n).IsDouble :=
  isDouble_ofRatio _ n.natAbs Nat.one_ne_zero

/-- A whole number times a power of two is rounded to a number of the format. -/
theorem isDouble_ofScaled (negative : Bool) (n : Nat) (power : Int) :
    (ofScaled negative n power).IsDouble := by
  unfold ofScaled
  split
  · exact isDouble_ofRatio negative n (Nat.two_pow_pos _).ne'
  · exact isDouble_ofRatio negative _ Nat.one_ne_zero

/-- Sums are numbers of the format when what is added is of it. -/
theorem IsDouble.add {x y : Binary64} (hx : x.IsDouble) (hy : y.IsDouble) : (x.add y).IsDouble := by
  cases x with
  | nan => trivial
  | infinite a =>
    cases y with
    | nan => trivial
    | infinite b =>
      rw [Binary64.add]
      split
      · exact hx
      · trivial
    | finite b n q => exact hx
  | finite a m p =>
    cases y with
    | nan => trivial
    | infinite b => exact hy
    | finite b n q =>
      rw [Binary64.add]
      split
      · exact isDouble_zero _
      · exact isDouble_ofScaled _ _ _

/-- Products are numbers of the format. -/
theorem isDouble_mul (x y : Binary64) : (x.mul y).IsDouble := by
  cases x with
  | nan => trivial
  | infinite a =>
    cases y with
    | nan => trivial
    | infinite b => trivial
    | finite b n q =>
      rw [mul]
      split <;> trivial
  | finite a m p =>
    cases y with
    | nan => trivial
    | infinite b =>
      rw [mul]
      split <;> trivial
    | finite b n q => exact isDouble_ofScaled _ _ _

end DistrictAtlas.Binary64
