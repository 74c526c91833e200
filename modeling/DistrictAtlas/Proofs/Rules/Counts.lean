import DistrictAtlas.Proofs.Number.DigitValues
import DistrictAtlas.Proofs.Number.Grouping
import DistrictAtlas.Proofs.Number.LongCounts
import Mathlib.Algebra.Order.Floor.Semiring
import Mathlib.Data.Rat.Floor
import Mathlib.Tactic.Positivity

/-!
# What a count is read as

Of a text only the digits, signs and points count. If they are a decimal numeral whose number is not
below zero, the count is the whole part of this number, however long the numeral; if they are not, it is
zero and zero was put in place of something. A number that was written in groups of three is read back.
-/

namespace DistrictAtlas

/-- A decimal numeral: a sign or none, digits, and perhaps a point with digits behind it. There has to
be a digit, on whichever side of the point. -/
structure Numeral where
  /-- The sign in front, if there is one. -/
  sign : List Char
  /-- The digits before the point. -/
  whole : List Char
  /-- The digits behind the point, if there is one. -/
  fraction : Option (List Char)
  /-- There is one sign at most. -/
  sign_mem : sign ∈ [[], ['+'], ['-']]
  /-- Before the point are digits. -/
  whole_digits : ∀ c ∈ whole, c.isDigit = true
  /-- Behind it, too. -/
  fraction_digits : ∀ c ∈ fraction.getD [], c.isDigit = true
  /-- There is a digit. -/
  hasDigit : whole ++ fraction.getD [] ≠ []

namespace Numeral

/-- The numeral without its sign. -/
def unsigned (numeral : Numeral) : List Char :=
  numeral.whole ++ numeral.fraction.elim [] ('.' :: ·)

/-- The written form of a numeral. -/
def chars (numeral : Numeral) : List Char :=
  numeral.sign ++ numeral.unsigned

/-- The number without its sign. -/
def magnitude (numeral : Numeral) : ℚ :=
  Nat.ofDigitChars 10 numeral.whole 0 +
    Nat.ofDigitChars 10 (numeral.fraction.getD []) 0 / 10 ^ (numeral.fraction.getD []).length

/-- The number that a numeral writes. -/
def value (numeral : Numeral) : ℚ :=
  if numeral.sign = ['-'] then -numeral.magnitude else numeral.magnitude

/-- The number without its sign is its whole part and less than one. -/
theorem floor_magnitude (numeral : Numeral) :
    ⌊numeral.magnitude⌋₊ = Nat.ofDigitChars 10 numeral.whole 0 := by
  have hless : (Nat.ofDigitChars 10 (numeral.fraction.getD []) 0 : ℚ) <
      10 ^ (numeral.fraction.getD []).length := by
    exact_mod_cast Digits.ofDigitChars_lt_pow numeral.fraction_digits
  have hpos : (0 : ℚ) < 10 ^ (numeral.fraction.getD []).length := by positivity
  rw [magnitude, Nat.floor_eq_iff (by positivity)]
  refine ⟨le_add_of_nonneg_right (by positivity), ?_⟩
  have hone := (div_lt_one hpos).mpr hless
  linarith

/-- The number without its sign is zero exactly if all digits are zeros. -/
theorem magnitude_eq_zero_iff (numeral : Numeral) :
    numeral.magnitude = 0 ↔ ∀ c ∈ numeral.whole ++ numeral.fraction.getD [], c = '0' := by
  have hpow : (10 : ℚ) ^ (numeral.fraction.getD []).length ≠ 0 := by positivity
  rw [magnitude, add_eq_zero_iff_of_nonneg (by positivity) (by positivity), div_eq_zero_iff,
    or_iff_left hpow, Nat.cast_eq_zero, Nat.cast_eq_zero,
    Digits.ofDigitChars_eq_zero_iff numeral.whole_digits,
    Digits.ofDigitChars_eq_zero_iff numeral.fraction_digits, List.forall_mem_append]

/-- The number without its sign is not below zero. -/
theorem magnitude_nonneg (numeral : Numeral) : 0 ≤ numeral.magnitude := by
  unfold magnitude
  positivity

/-- A numeral is below zero exactly if it has a minus sign and a digit other than zero. -/
theorem value_neg_iff (numeral : Numeral) :
    numeral.value < 0 ↔ numeral.sign = ['-'] ∧
      ¬∀ c ∈ numeral.whole ++ numeral.fraction.getD [], c = '0' := by
  rw [value, ← magnitude_eq_zero_iff]
  split
  · next hminus =>
    rw [neg_lt_zero, lt_iff_le_and_ne, and_iff_right hminus, and_iff_right numeral.magnitude_nonneg,
      ne_comm]
  · next hplus =>
    exact iff_of_false (not_lt.mpr numeral.magnitude_nonneg) fun h => hplus h.1

/-- The whole part of a number that is not below zero is what its digits before the point write. -/
theorem floor_value {numeral : Numeral} (h : 0 ≤ numeral.value) :
    ⌊numeral.value⌋₊ = Nat.ofDigitChars 10 numeral.whole 0 := by
  rw [← numeral.floor_magnitude, value]
  split
  · next hminus =>
    -- below zero nothing is left but minus zero
    have hzero : numeral.magnitude = 0 := by
      rw [value, if_pos hminus, neg_nonneg] at h
      exact le_antisymm h numeral.magnitude_nonneg
    rw [hzero, neg_zero]
  · rfl

end Numeral

namespace Count

/-- The digits, signs and points of a text. -/
def numeralPart (text : String) : List Char :=
  text.toList.filter fun c => c.isDigit || ['+', '-', '.'].contains c

/-- They are the characters that can belong to a numeral. -/
theorem filter_isNumeral (text : String) : text.toList.filter isNumeral = numeralPart text := by
  refine List.filter_congr fun c _ => ?_
  rw [isNumeral, Digits.isDigit_eq, Bool.or_assoc, Bool.or_assoc]
  simp only [List.contains_cons, List.contains_nil, Bool.or_false]
  rfl

/-- The digits on both sides of the point of a numeral are found. -/
theorem places?_unsigned (numeral : Numeral) :
    places? numeral.unsigned = some (numeral.whole, numeral.fraction.getD []) := by
  have hwhole : ∀ c ∈ numeral.whole, Digits.isDigit c = true := numeral.whole_digits
  have hfraction := numeral.fraction_digits
  have hdigit : (!numeral.whole.isEmpty || !(numeral.fraction.getD []).isEmpty) = true := by
    rw [Bool.or_eq_true, Bool.not_eq_true', Bool.not_eq_true', List.isEmpty_eq_false_iff,
      List.isEmpty_eq_false_iff, ← not_and_or, ← List.append_eq_nil_iff]
    exact numeral.hasDigit
  unfold places? Numeral.unsigned
  refine Option.filter_eq_some_iff.mpr ⟨?_, hdigit⟩
  cases hpoint : numeral.fraction with
  | none =>
    rw [Option.elim_none, List.append_nil, List.takeWhile_eq_self_iff.mpr hwhole,
      List.dropWhile_eq_nil_iff.mpr hwhole]
    rfl
  | some fraction =>
    have htake : ('.' :: fraction).takeWhile Digits.isDigit = [] := rfl
    have hdrop : ('.' :: fraction).dropWhile Digits.isDigit = '.' :: fraction := rfl
    rw [hpoint] at hfraction
    rw [Option.elim_some, List.takeWhile_append_of_pos hwhole, List.dropWhile_append_of_pos hwhole,
      htake, hdrop, List.append_nil]
    exact if_pos (List.all_eq_true.mpr hfraction)

/-- Where digits are found on both sides of a point, they stand there. -/
theorem exists_of_places? {cs whole fraction : List Char}
    (h : places? cs = some (whole, fraction)) : ∃ behind : Option (List Char),
      cs = whole ++ behind.elim [] ('.' :: ·) ∧ (∀ c ∈ whole, c.isDigit = true) ∧
        (∀ c ∈ behind.getD [], c.isDigit = true) ∧ whole ++ behind.getD [] ≠ [] := by
  obtain ⟨hparts, hdigit⟩ := Option.filter_eq_some_iff.mp h
  have hdigits : ∀ c ∈ cs.takeWhile Digits.isDigit, c.isDigit = true :=
    fun c hc => List.mem_takeWhile_imp hc
  have hsplit := List.takeWhile_append_dropWhile (p := Digits.isDigit) (l := cs)
  have hsome : whole ++ fraction ≠ [] := by
    rintro hnil
    obtain ⟨rfl, rfl⟩ := List.append_eq_nil_iff.mp hnil
    cases hdigit
  split at hparts
  · next hrest =>
    cases hparts
    rw [hrest] at hsplit
    exact ⟨none, hsplit.symm, hdigits, nofun, hsome⟩
  · next digits hrest =>
    split at hparts
    · next hall =>
      cases hparts
      rw [hrest] at hsplit
      exact ⟨some fraction, hsplit.symm, hdigits, List.all_eq_true.mp hall, hsome⟩
    · cases hparts
  · cases hparts

/-- The sign of a numeral is found in front of it. -/
theorem sign_chars (numeral : Numeral) :
    sign numeral.chars = (decide (numeral.sign = ['-']), numeral.unsigned) := by
  have hunsigned : sign numeral.unsigned = (false, numeral.unsigned) := by
    -- without a sign a numeral begins with a digit or with its point
    obtain ⟨_, whole, fraction, -, hwhole, -, hdigit⟩ := numeral
    unfold Numeral.unsigned
    cases whole with
    | cons c rest => exact sign_digit (hwhole c List.mem_cons_self) _
    | nil =>
      cases fraction with
      | none => exact absurd rfl hdigit
      | some fraction => rfl
  have hcases : numeral.sign = [] ∨ numeral.sign = ['+'] ∨ numeral.sign = ['-'] := by
    simpa only [List.mem_cons, List.not_mem_nil, or_false] using numeral.sign_mem
  unfold Numeral.chars
  rcases hcases with hsign | hsign | hsign
  · rw [hsign, List.nil_append, hunsigned]
    rfl
  · rw [hsign]
    rfl
  · rw [hsign]
    rfl

/-- A numeral that is not below zero gives the number that its digits before the point write. -/
theorem numeral?_chars (numeral : Numeral) :
    numeral? numeral.chars = if numeral.value < 0 then none else
      some (Nat.ofDigitChars 10 numeral.whole 0) := by
  have hzeros : ((numeral.whole ++ numeral.fraction.getD []).all (· = '0')) = true ↔
      ∀ c ∈ numeral.whole ++ numeral.fraction.getD [], c = '0' := by
    rw [List.all_eq_true]
    simp only [decide_eq_true_eq]
  unfold numeral?
  rw [sign_chars]
  dsimp only
  rw [places?_unsigned]
  dsimp only
  simp only [Bool.and_eq_true, Bool.not_eq_true', ← Bool.not_eq_true, decide_eq_true_eq, hzeros,
    ← numeral.value_neg_iff]
  rfl

/-- What gives a number is a numeral. -/
theorem exists_chars_of_numeral? {cs : List Char} (h : (numeral? cs).isSome = true) :
    ∃ numeral : Numeral, numeral.chars = cs := by
  have hsign : ∃ signs ∈ [[], ['+'], ['-']], cs = signs ++ (sign cs).2 := by
    unfold sign
    split
    · exact ⟨['-'], by decide, rfl⟩
    · exact ⟨['+'], by decide, rfl⟩
    · exact ⟨[], by decide, rfl⟩
  obtain ⟨signs, hsigns, hcs⟩ := hsign
  unfold numeral? at h
  dsimp only at h
  split at h
  · cases h
  · next whole fraction hplaces =>
    obtain ⟨behind, hunsigned, hwhole, hbehind, hdigit⟩ := exists_of_places? hplaces
    exact ⟨⟨signs, whole, behind, hsigns, hwhole, hbehind, hdigit⟩, by
      rw [hcs, hunsigned]
      rfl⟩

/-- Characters with others among them that are no digits, signs or points. -/
inductive Interspersed : List Char → List Char → Prop where
  /-- Nothing is among nothing. -/
  | nil : Interspersed [] []
  /-- A character stays. -/
  | keep {cs all : List Char} (c : Char) (h : Interspersed cs all) : Interspersed (c :: cs) (c :: all)
  /-- Another one comes in. -/
  | insert {cs all : List Char} (c : Char) (hdigit : c.isDigit = false) (hsign : c ∉ ['+', '-', '.'])
    (h : Interspersed cs all) : Interspersed cs (c :: all)

/-- The digits, signs and points stay the same. -/
theorem Interspersed.numeralPart_eq {text padded : String}
    (h : Interspersed text.toList padded.toList) : numeralPart padded = numeralPart text := by
  unfold numeralPart
  generalize text.toList = cs at h
  generalize padded.toList = all at h
  induction h with
  | nil => rfl
  | keep c _ ih => rw [List.filter_cons, List.filter_cons, ih]
  | insert c hdigit hsign _ ih =>
    have hother : (c.isDigit || ['+', '-', '.'].contains c) = false := by
      rw [hdigit, Bool.false_or, Bool.eq_false_iff, ne_eq, List.contains_iff_mem]
      exact hsign
    rw [List.filter_cons, hother, if_neg Bool.false_ne_true, ih]

/-- A text without digits, signs and points counts as zero. -/
theorem read_of_nil {text : String} (h : numeralPart text = []) :
    read text = ⟨0, !Text.isBlankText text⟩ := by
  rw [read, filter_isNumeral, h]

/-- Any other text counts as what its digits, signs and points write. -/
theorem read_of_ne_nil {text : String} (h : numeralPart text ≠ []) :
    read text = (numeral? (numeralPart text)).elim ⟨0, true⟩ (⟨·, false⟩) := by
  rw [read, filter_isNumeral]
  split
  · next hnil => exact absurd hnil h
  · cases numeral? (numeralPart text) <;> rfl

/-- A numeral has characters. -/
theorem chars_ne_nil (numeral : Numeral) : numeral.chars ≠ [] := by
  intro hnil
  have hplaces := places?_unsigned numeral
  rw [(List.append_eq_nil_iff.mp hnil).2] at hplaces
  cases hplaces

/-- A numeral that is not below zero counts as the whole part of its number. -/
theorem read_of_chars {text : String} {numeral : Numeral} (h : numeralPart text = numeral.chars)
    (hvalue : 0 ≤ numeral.value) : read text = ⟨⌊numeral.value⌋₊, false⟩ := by
  have hne : numeralPart text ≠ [] := h ▸ chars_ne_nil numeral
  rw [read_of_ne_nil hne, h, numeral?_chars, if_neg (not_lt.mpr hvalue), Option.elim_some,
    Numeral.floor_value hvalue]

/-- What is no numeral, or one below zero, counts as zero. -/
theorem read_of_no_numeral {text : String} (hne : numeralPart text ≠ [])
    (h : ∀ numeral : Numeral, numeralPart text = numeral.chars → numeral.value < 0) :
    read text = ⟨0, true⟩ := by
  have hnone : numeral? (numeralPart text) = none := by
    by_contra hsome
    obtain ⟨numeral, hnumeral⟩ := exists_chars_of_numeral? (Option.isSome_iff_ne_none.mpr hsome)
    rw [← hnumeral, numeral?_chars, if_pos (h numeral hnumeral.symm)] at hsome
    exact hsome rfl
  rw [read_of_ne_nil hne, hnone, Option.elim_none]

/-- A number in groups of three is read back. -/
theorem read_of_isGrouping {n : Nat} {text : String}
    (h : Digits.IsGrouping (Nat.toDigits 10 n) text.toList) : read text = ⟨n, false⟩ := by
  have hdigits : ∀ c ∈ Nat.toDigits 10 n, c.isDigit = true :=
    fun c hc => Nat.isDigit_of_mem_toDigits (by decide) (by decide) hc
  let numeral : Numeral :=
    ⟨[], Nat.toDigits 10 n, none, List.mem_cons_self, hdigits, nofun,
      (List.append_nil _).trans_ne Nat.toDigits_ne_nil⟩
  have hchars : numeralPart text = numeral.chars := by
    rw [numeralPart, h.filter_eq rfl fun c hc => by rw [hdigits c hc, Bool.true_or]]
    exact (List.append_nil _).symm
  have hvalue : 0 ≤ numeral.value := numeral.magnitude_nonneg
  rw [read_of_chars hchars hvalue, Numeral.floor_value hvalue, Nat.ofDigitChars_ten_toDigits]

/-- A number with no more digits than are written is written in groups. -/
theorem groupedText_natCast {n : Nat} (h : (Nat.toDigits 10 n).length ≤ Digits.limit) :
    Digits.groupedText n = .ok (String.ofList (Digits.group (Nat.toDigits 10 n))) := by
  have hpos : 0 < (Nat.toDigits 10 n).length := List.length_pos_iff.mpr Nat.toDigits_ne_nil
  have hshort : Digits.tooLong n = false :=
    Digits.tooLong_eq_false h ((Nat.length_toDigits_le_iff (by decide) hpos).mp le_rfl)
  rw [Digits.groupedText, hshort, if_neg Bool.false_ne_true, Digits.grouped,
    if_neg (Int.not_lt.mpr (Int.natCast_nonneg n))]
  rfl

/-- A count is what the digits, signs and points of its text write. Without any of them it is zero, and
so it is, as a replacement, when they are no decimal numeral or one below zero; any other numeral gives
the whole part of its number, of whatever length it is. A count is never below zero, and characters of
other kinds make no difference unless there are no others. A number that is written out in groups of
three digits with commas between them is read back. -/
theorem read_exactly :
    (∀ text : String,
      (numeralPart text = [] → read text = ⟨0, !Text.isBlankText text⟩) ∧
        (∀ numeral : Numeral, numeralPart text = numeral.chars → 0 ≤ numeral.value →
          read text = ⟨⌊numeral.value⌋₊, false⟩) ∧
        (numeralPart text ≠ [] →
          (∀ numeral : Numeral, numeralPart text = numeral.chars → numeral.value < 0) →
            read text = ⟨0, true⟩) ∧
        ∀ padded : String, Interspersed text.toList padded.toList → numeralPart text ≠ [] →
          read padded = read text) ∧
      ∀ n : Nat, (Nat.toDigits 10 n).length ≤ 4300 → ∃ text, Digits.groupedText n = .ok text ∧
        Digits.IsGrouping (Nat.toDigits 10 n) text.toList ∧ read text = ⟨n, false⟩ := by
  refine ⟨fun text => ⟨read_of_nil, fun _ => read_of_chars, read_of_no_numeral, ?_⟩, ?_⟩
  · intro padded hpadded hne
    have hsame := hpadded.numeralPart_eq
    rw [read_of_ne_nil hne, read_of_ne_nil (hsame.trans_ne hne), hsame]
  · intro n hlength
    have hgrouping : Digits.IsGrouping (Nat.toDigits 10 n)
        (String.ofList (Digits.group (Nat.toDigits 10 n))).toList := by
      rw [String.toList_ofList]
      exact Digits.isGrouping_group Nat.toDigits_ne_nil
    exact ⟨_, groupedText_natCast hlength, hgrouping, read_of_isGrouping hgrouping⟩

/-- A point between digits ends the whole part, and a second one is no numeral any more. -/
example : read "1,234.9 km" = ⟨1234, false⟩ ∧ read "1.234.9" = ⟨0, true⟩ := by decide +kernel

end Count

end DistrictAtlas
