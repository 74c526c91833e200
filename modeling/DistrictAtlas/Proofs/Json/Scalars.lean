import DistrictAtlas.Json.Printer
import DistrictAtlas.Json.Reader
import DistrictAtlas.Proofs.Json.Quoting
import DistrictAtlas.Proofs.Number.DigitValues

/-!
# Scalars are read back

A whole number that is not too long is written by its digits, without zeros in front of them, and is
read from these digits as far as they go. So what stands behind a number must not look like more of
it. Null and the two truth values are written as words, and a text stands between quotes.
-/

namespace DistrictAtlas

namespace Digits

/-- The digits of a number that is not zero do not start with a zero. -/
theorem head?_ofNat {n : Nat} (h : 0 < n) : (ofNat n).head? ≠ some '0' := by
  induction n using Nat.strongRecOn with
  | ind n ih =>
    rcases Nat.lt_or_ge n 10 with hsmall | hlarge
    · have hdigit : ∀ d < 10, 0 < d → [Nat.digitChar d].head? ≠ some '0' := by decide
      rw [ofNat, Nat.toDigits_of_lt_base hsmall]
      exact hdigit n hsmall h
    · have hfront := ih (n / 10) (by omega) (by omega)
      have hdigits : ofNat n = ofNat (n / 10) ++ [Nat.digitChar (n % 10)] :=
        Nat.toDigits_of_base_le (by decide) hlarge
      have hne : ofNat (n / 10) ≠ [] := Nat.toDigits_ne_nil
      rwa [hdigits, List.head?_append, Option.or_of_isSome (List.isSome_head?.mpr hne)]

/-- A number begins with a digit, or with a minus sign and a digit, and digits follow. -/
theorem exists_ofInt (n : Int) : ∃ d more, isDigit d = true ∧
    (ofInt n = d :: more ∨ ofInt n = '-' :: d :: more) := by
  obtain ⟨d, more, hdigits⟩ : ∃ d more, ofNat n.natAbs = d :: more :=
    List.exists_cons_of_ne_nil Nat.toDigits_ne_nil
  have hd : isDigit d = true := isDigit_of_mem_ofNat (hdigits ▸ List.mem_cons_self)
  refine ⟨d, more, hd, ?_⟩
  rw [ofInt, hdigits]
  split
  · exact Or.inr rfl
  · exact Or.inl rfl

/-- The digits of a number are read as this number, if they are not too many. -/
theorem read_ofNat {n : Nat} (h : (ofNat n).length ≤ limit) : read (ofNat n) = .ok n := by
  have hvalue : toNat (ofNat n) = n := Nat.ofDigitChars_ten_toDigits
  rw [read, if_neg (Nat.not_lt.mpr h), hvalue]

end Digits

/-- A scalar that is read back as it was written: any but a number of the double format, one with more
digits than are written, or a torn text. -/
def Scalar.IsPlain : Scalar → Prop
  | .int n => (Digits.ofNat n.natAbs).length ≤ Digits.limit
  | .real _ => False
  | .torn _ => False
  | _ => True

namespace Json

/-- What follows cannot belong to a number. -/
def EndsNumber (rest : List Char) : Prop :=
  ∀ c ∈ rest.head?, Digits.isDigit c = false ∧ c ≠ '.' ∧ c ≠ 'e' ∧ c ≠ 'E'

/-- A comma cannot belong to a number. -/
theorem endsNumber_comma (rest : List Char) : EndsNumber (',' :: rest) := by
  simp [EndsNumber, Digits.isDigit]

/-- A line end cannot belong to a number. -/
theorem endsNumber_newline (rest : List Char) : EndsNumber ('\n' :: rest) := by
  simp [EndsNumber, Digits.isDigit]

/-- A closing brace cannot belong to a number. -/
theorem endsNumber_brace (rest : List Char) : EndsNumber ('\x7d' :: rest) := by
  simp [EndsNumber, Digits.isDigit]

variable {rest : List Char}

/-! ## Numbers -/

/-- Digits are taken up to the end of the number. -/
theorem takeWhile_isDigit {digits : List Char} (hdigits : ∀ c ∈ digits, Digits.isDigit c = true)
    (hrest : EndsNumber rest) :
    (digits ++ rest).takeWhile Digits.isDigit = digits ∧
      (digits ++ rest).dropWhile Digits.isDigit = rest := by
  have hnone : rest.takeWhile Digits.isDigit = [] ∧ rest.dropWhile Digits.isDigit = rest := by
    cases rest with
    | nil => exact ⟨rfl, rfl⟩
    | cons c more =>
      have hc := (hrest c rfl).1
      simp [hc]
  rw [List.takeWhile_append_of_pos hdigits, List.dropWhile_append_of_pos hdigits, hnone.1, hnone.2,
    List.append_nil]
  exact ⟨rfl, rfl⟩

/-- The digits of a number are its whole part. -/
theorem wholePart_ofNat (n : Nat) (hrest : EndsNumber rest) :
    wholePart (Digits.ofNat n ++ rest) = some (Digits.ofNat n, rest) := by
  rcases Nat.eq_zero_or_pos n with rfl | hpos
  · rfl
  · have hdigits : ∀ c ∈ Digits.ofNat n, Digits.isDigit c = true := fun c hc =>
      Digits.isDigit_of_mem_ofNat hc
    obtain ⟨htake, hdrop⟩ := takeWhile_isDigit hdigits hrest
    have hzero := Digits.head?_ofNat hpos
    have hne : Digits.ofNat n ≠ [] := Nat.toDigits_ne_nil
    unfold wholePart
    split
    · next heq =>
      -- the first character would be a zero
      have hhead := congrArg List.head? heq
      rw [List.head?_append, Option.or_of_isSome (List.isSome_head?.mpr hne)] at hhead
      exact absurd hhead hzero
    · rw [htake, hdrop]
      split
      · next hnil => exact absurd hnil hne
      · rfl

/-- Without a point there is no fraction. -/
theorem fractionPart_of_endsNumber (h : EndsNumber rest) : fractionPart rest = ([], rest) := by
  unfold fractionPart
  split
  · exact absurd rfl (h _ rfl).2.1
  · rfl

/-- Without its letter there is no exponent. -/
theorem exponentPart_of_endsNumber (h : EndsNumber rest) : exponentPart rest = (none, rest) := by
  cases rest with
  | nil => rfl
  | cons c more =>
    obtain ⟨-, -, hsmall, hcapital⟩ := h c rfl
    simp [exponentPart, hsmall, hcapital]

/-- Digits are read as their number, and as the one below zero behind a minus sign. -/
theorem readNumber_ofNat {n : Nat} (h : (Digits.ofNat n).length ≤ Digits.limit)
    (hrest : EndsNumber rest) :
    readNumber (Digits.ofNat n ++ rest) = .ok (.int n, rest) ∧
      readNumber ('-' :: (Digits.ofNat n ++ rest)) = .ok (.int (-n), rest) := by
  have hwhole := wholePart_ofNat n hrest
  have hfraction := fractionPart_of_endsNumber hrest
  have hexponent := exponentPart_of_endsNumber hrest
  have hread := Digits.read_ofNat h
  constructor
  · have hsign : ∀ more, Digits.ofNat n ++ rest = '-' :: more → False := by
      intro more hmore
      rw [hmore] at hwhole
      cases hwhole
    unfold readNumber
    split
    next negative unsigned heq =>
    split at heq
    · next more hmore => exact (hsign more hmore).elim
    · obtain ⟨rfl, rfl⟩ := Prod.mk.inj heq
      simp only [hwhole, hfraction, hexponent, hread, Bool.false_eq_true, if_false]
  · simp only [readNumber, hwhole, hfraction, hexponent, hread, if_true]

/-- A number is read back from its text. -/
theorem readNumber_ofInt {n : Int} (h : (Digits.ofNat n.natAbs).length ≤ Digits.limit)
    (hrest : EndsNumber rest) : readNumber (Digits.ofInt n ++ rest) = .ok (.int n, rest) := by
  obtain ⟨hunsigned, hnegative⟩ := readNumber_ofNat h hrest
  rcases Int.lt_or_le n 0 with hneg | hnonneg
  · have hvalue : -(n.natAbs : Int) = n := by omega
    rw [Digits.ofInt, if_pos hneg, List.cons_append, hnegative, hvalue]
  · have hvalue : (n.natAbs : Int) = n := by omega
    rw [Digits.ofInt, if_neg (Int.not_lt.mpr hnonneg), hunsigned, hvalue]

/-! ## Words and numbers -/

/-- No word begins with a digit, nor with a minus sign and a digit. -/
theorem find?_words {d : Char} (h : Digits.isDigit d = true) (more : List Char) :
    words.find? (fun word => word.1.isPrefixOf (d :: more)) = none ∧
      words.find? (fun word => word.1.isPrefixOf ('-' :: d :: more)) = none := by
  have hletter : ∀ letter ∈ ['n', 't', 'f', 'N', 'I', '-'], letter ≠ d := by
    have hno : ∀ letter ∈ ['n', 't', 'f', 'N', 'I', '-'], Digits.isDigit letter = false := by
      simp [Digits.isDigit]
    rintro letter hmem rfl
    exact Bool.false_ne_true ((hno letter hmem).symm.trans h)
  simp only [List.forall_mem_cons] at hletter
  constructor
  · simp [words, hletter]
  · simp [words, hletter]

/-- A number is no word, whatever follows. -/
theorem find?_words_ofInt (n : Int) (rest : List Char) :
    words.find? (fun word => word.1.isPrefixOf (Digits.ofInt n ++ rest)) = none := by
  obtain ⟨d, more, hd, hn | hn⟩ := Digits.exists_ofInt n
  · rw [hn]
    exact (find?_words hd (more ++ rest)).1
  · rw [hn]
    exact (find?_words hd (more ++ rest)).2

/-- A plain scalar that is no text is read back from its text. -/
theorem readScalar_scalarText {s : Scalar} (hs : s.IsPlain) (htext : ∀ text, s ≠ .text text)
    (hrest : EndsNumber rest) : readScalar ((scalarText s).toList ++ rest) = .ok (s, rest) := by
  cases s with
  | null => rfl
  | bool value => cases value <;> rfl
  | int n =>
    have hnumber := readNumber_ofInt hs hrest
    rw [readScalar, scalarText, String.toList_ofList, find?_words_ofInt, hnumber]
  | real x => exact hs.elim
  | text text => exact absurd rfl (htext text)
  | torn text => exact hs.elim

/-! ## Where a value starts -/

/-- The marks and letters with which a value can start; it can start with a digit as well. -/
def starters : List Char := ['"', '[', '\x7b', '-', 'n', 't', 'f']

/-- A value can start here. -/
def StartsValue (cs : List Char) : Prop :=
  ∃ c ∈ cs.head?, c ∈ starters ∨ Digits.isDigit c = true

/-- Where a value starts there is neither a space nor an end of anything. -/
theorem StartsValue.spec {cs : List Char} (h : StartsValue cs) :
    skipSpace cs = cs ∧ cs.head? ≠ some ']' ∧ cs.head? ≠ some '\x7d' ∧
      cs.head? ≠ some (Char.ofNat 0xFEFF) := by
  obtain ⟨c, hhead, hc⟩ := h
  have hno {other : Char} (hstarter : other ∉ starters) (hdigit : Digits.isDigit other = false) :
      c ≠ other := by
    rintro rfl
    rcases hc with hmem | htrue
    · exact hstarter hmem
    · exact Bool.false_ne_true (hdigit.symm.trans htrue)
  have hspace : isSpace c = false := by
    have hblank : c ≠ ' ' := hno (by decide) (by decide)
    have htab : c ≠ '\t' := hno (by decide) (by decide)
    have hfeed : c ≠ '\n' := hno (by decide) (by decide)
    have hreturn : c ≠ '\r' := hno (by decide) (by decide)
    simp [isSpace, hblank, htab, hfeed, hreturn]
  obtain ⟨more, rfl⟩ := List.head?_eq_some_iff.mp hhead
  refine ⟨List.dropWhile_cons_of_neg (Bool.eq_false_iff.mp hspace), ?_, ?_, ?_⟩
  all_goals exact fun heq => hno (by decide) (by decide) (Option.some.inj heq)

/-- A value starts with the text of a plain scalar. -/
theorem startsValue_scalarText {s : Scalar} (hs : s.IsPlain) (rest : List Char) :
    StartsValue ((scalarText s).toList ++ rest) := by
  cases s with
  | null => exact ⟨'n', rfl, Or.inl (by decide)⟩
  | bool value =>
    cases value with
    | false => exact ⟨'f', rfl, Or.inl (by decide)⟩
    | true => exact ⟨'t', rfl, Or.inl (by decide)⟩
  | int n =>
    obtain ⟨d, more, hd, hn | hn⟩ := Digits.exists_ofInt n
    · rw [scalarText, String.toList_ofList, hn]
      exact ⟨d, rfl, Or.inr hd⟩
    · rw [scalarText, String.toList_ofList, hn]
      exact ⟨'-', rfl, Or.inl (by decide)⟩
  | real x => exact hs.elim
  | text text =>
    rw [scalarText, toList_quoted]
    exact ⟨'"', rfl, Or.inl (by decide)⟩
  | torn text => exact hs.elim

/-- No control character stands in the text of a plain scalar. -/
theorem le_toNat_of_mem_scalarText {s : Scalar} (hs : s.IsPlain) {c : Char}
    (h : c ∈ (scalarText s).toList) : 0x20 ≤ c.toNat := by
  cases s with
  | null =>
    have hword : ∀ c ∈ "null".toList, 0x20 ≤ c.toNat := by simp
    exact hword c h
  | bool value =>
    have hword : ∀ value, ∀ c ∈ (scalarText (.bool value)).toList, 0x20 ≤ c.toNat := by
      simp [scalarText]
    exact hword value c h
  | int n =>
    have hdigit {c : Char} (hc : c ∈ Digits.ofNat n.natAbs) : 0x20 ≤ c.toNat := by
      have hbounds := Char.isDigit_iff_toNat.mp (Digits.isDigit_of_mem_ofNat hc)
      have hzero : '0'.toNat = 0x30 := rfl
      omega
    rw [scalarText, String.toList_ofList, Digits.ofInt] at h
    split at h
    · rcases List.mem_cons.mp h with rfl | hc
      · decide
      · exact hdigit hc
    · exact hdigit h
  | real x => exact hs.elim
  | text text => exact le_toNat_of_mem_quoted h
  | torn text => exact hs.elim

/-! ## Reading a value without parts -/

/-- A word or a number is read as a value. -/
theorem readValue_of_readScalar {fuel depth : Nat} {cs more : List Char} {s : Scalar}
    (h : readScalar cs = .ok (s, more)) :
    readValue (fuel + 1) depth cs = .ok (.scalar s, more) := by
  unfold readValue
  split
  · cases ‹_ + 1 = 0›
  -- a quote and a bracket begin neither a word nor a number
  · cases h
  · cases h
  · cases h
  · cases h
  · cases h
  · rw [h]

/-- A plain scalar is read back from its text, where nothing follows that belongs to a number. -/
theorem readValue_scalarText {s : Scalar} (hs : s.IsPlain) (hrest : EndsNumber rest)
    (fuel depth : Nat) :
    readValue (fuel + 1) depth ((scalarText s).toList ++ rest) = .ok (.scalar s, rest) := by
  by_cases htext : ∃ text, s = .text text
  · obtain ⟨text, rfl⟩ := htext
    have hchars : (scalarText (.text text)).toList ++ rest =
        '"' :: (text.toList.flatMap escapeChar ++ '"' :: rest) := by
      rw [scalarText, toList_quoted, List.cons_append, List.append_assoc, List.singleton_append]
    rw [hchars, readValue, readText_text]
    rfl
  · have hscalar := readScalar_scalarText hs (not_exists.mp htext) hrest
    exact readValue_of_readScalar hscalar

end Json

end DistrictAtlas
