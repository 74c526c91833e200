import DistrictAtlas.Proofs.Text.Utf8

/-!
# Only the bytes of a text decode

Strict decoding takes nothing for a character but the bytes that the character is written as. So the
bytes that it reads without a fault are those of the text that it gives, and there is no other spelling
of a text.
-/

namespace DistrictAtlas.Utf8

/-- A byte that can stand inside a character holds six bits of it. -/
theorem exists_tail {b : UInt8} (h : isContinuation b = true) : ∃ k < 0x40, b = tail k := by
  rw [isContinuation, Bool.and_eq_true, decide_eq_true_iff, decide_eq_true_iff] at h
  refine ⟨b.toNat - 0x80, by omega, UInt8.toNat_inj.mp ?_⟩
  rw [toNat_tail (by omega)]
  omega

/-- So does a byte that can follow the first one, and its bits suit this one. -/
theorem exists_tail_of_isSecond {lead b : UInt8} (h : isSecond lead b = true) :
    ∃ k < 0x40, b = tail k ∧ Suits lead.toNat k := by
  rw [isSecond, Bool.and_eq_true] at h
  obtain ⟨hcontinuation, hrange⟩ := h
  obtain ⟨k, hk, rfl⟩ := exists_tail hcontinuation
  rw [toNat_tail hk] at hrange
  refine ⟨k, hk, rfl, fun hlead => ?_, fun hlead => ?_, fun hlead => ?_, fun hlead => ?_⟩
  · obtain rfl : lead = 0xE0 := UInt8.toNat_inj.mp hlead
    have hfrom := of_decide_eq_true hrange
    omega
  · obtain rfl : lead = 0xED := UInt8.toNat_inj.mp hlead
    have hto := of_decide_eq_true hrange
    omega
  · obtain rfl : lead = 0xF0 := UInt8.toNat_inj.mp hlead
    have hfrom := of_decide_eq_true hrange
    omega
  · obtain rfl : lead = 0xF4 := UInt8.toNat_inj.mp hlead
    have hto := of_decide_eq_true hrange
    omega

/-- The character with a code point has this code point. -/
theorem toNat_char {code : Nat} (h : code < 0xD800 ∨ 0xDFFF < code ∧ code < 0x110000) :
    (Char.ofNat code).toNat = code := by
  rw [Char.ofNat, dif_pos h]
  rfl

/-- One byte that is a character is the byte of the character. -/
theorem encodeChar_one {a : Nat} (ha : a < 0x80) : encodeChar (Char.ofNat a) = [UInt8.ofNat a] := by
  unfold encodeChar
  rw [toNat_char (by omega)]
  exact if_pos ha

/-- Two bytes that are a character are the bytes of the character. -/
theorem encodeChar_two {a k : Nat} (hlow : 0xC2 ≤ a) (hhigh : a < 0xE0) (hk : k < 0x40) :
    encodeChar (Char.ofNat (a % 0x20 * 0x40 + k)) = [UInt8.ofNat a, tail k] := by
  have hlead : 0xC0 + (a % 0x20 * 0x40 + k) / 0x40 = a := by omega
  have hlast : (a % 0x20 * 0x40 + k) % 0x40 = k := by omega
  unfold encodeChar
  rw [toNat_char (by omega)]
  dsimp only
  rw [if_neg (by omega), if_pos (by omega), hlead, hlast]
  rfl

/-- Three bytes that are a character are the bytes of the character. -/
theorem encodeChar_three {a j k : Nat} (hlow : 0xE0 ≤ a) (hhigh : a < 0xF0) (hj : j < 0x40)
    (hk : k < 0x40) (h : Suits a j) :
    encodeChar (Char.ofNat (a % 0x10 * 0x1000 + j * 0x40 + k)) = [UInt8.ofNat a, tail j, tail k] := by
  obtain ⟨hthree, hscalar, -, -⟩ := h
  have hlead : 0xE0 + (a % 0x10 * 0x1000 + j * 0x40 + k) / 0x1000 = a := by omega
  have hsecond : (a % 0x10 * 0x1000 + j * 0x40 + k) / 0x40 % 0x40 = j := by omega
  have hlast : (a % 0x10 * 0x1000 + j * 0x40 + k) % 0x40 = k := by omega
  unfold encodeChar
  rw [toNat_char (by omega)]
  dsimp only
  rw [if_neg (by omega), if_neg (by omega), if_pos (by omega), hlead, hsecond, hlast]
  rfl

/-- Four bytes that are a character are the bytes of the character. -/
theorem encodeChar_four {a i j k : Nat} (hlow : 0xF0 ≤ a) (hhigh : a < 0xF5) (hi : i < 0x40)
    (hj : j < 0x40) (hk : k < 0x40) (h : Suits a i) :
    encodeChar (Char.ofNat (a % 0x08 * 0x40000 + i * 0x1000 + j * 0x40 + k)) =
      [UInt8.ofNat a, tail i, tail j, tail k] := by
  obtain ⟨-, -, hfour, hlast⟩ := h
  have hlead : 0xF0 + (a % 0x08 * 0x40000 + i * 0x1000 + j * 0x40 + k) / 0x40000 = a := by omega
  have hsecond : (a % 0x08 * 0x40000 + i * 0x1000 + j * 0x40 + k) / 0x1000 % 0x40 = i := by omega
  have hthird : (a % 0x08 * 0x40000 + i * 0x1000 + j * 0x40 + k) / 0x40 % 0x40 = j := by omega
  have hfourth : (a % 0x08 * 0x40000 + i * 0x1000 + j * 0x40 + k) % 0x40 = k := by omega
  unfold encodeChar
  rw [toNat_char (by omega)]
  dsimp only
  rw [if_neg (by omega), if_neg (by omega), if_neg (by omega), hlead, hsecond, hthird, hfourth]
  rfl

/-- A piece that is a character covers the bytes that this is written as, and no others. -/
theorem encodeChar_of_piece {lead : UInt8} {rest : Bytes} {size : Nat} {c : Char}
    (h : piece lead rest = ⟨size, .ok c⟩) :
    ∃ others behind, rest = others ++ behind ∧ encodeChar c = lead :: others ∧
      size = others.length + 1 := by
  have hlead : UInt8.ofNat lead.toNat = lead := UInt8.ofNat_toNat
  -- by the first byte there are up to three more, which are taken and checked one after the other
  unfold piece at h
  dsimp only at h
  split at h
  · next hone =>
    cases h
    refine ⟨[], rest, rfl, ?_, rfl⟩
    rw [encodeChar_one hone, hlead]
  split at h
  · cases h
  next hone hrange =>
  split at h
  · cases h
  next b₁ rest₁ =>
  split at h
  · cases h
  next hsecond =>
  rw [Bool.not_eq_true', Bool.not_eq_false] at hsecond
  obtain ⟨i, hi, rfl, hsuits⟩ := exists_tail_of_isSecond hsecond
  split at h
  · next htwo =>
    cases h
    refine ⟨[tail i], rest₁, rfl, ?_, rfl⟩
    rw [bits_tail hi, encodeChar_two (by omega) htwo hi, hlead]
  next htwo =>
  split at h
  · cases h
  next b₂ rest₂ =>
  split at h
  · cases h
  next hthird =>
  rw [Bool.not_eq_true', Bool.not_eq_false] at hthird
  obtain ⟨j, hj, rfl⟩ := exists_tail hthird
  split at h
  · next hthree =>
    cases h
    refine ⟨[tail i, tail j], rest₂, rfl, ?_, rfl⟩
    rw [bits_tail hi, bits_tail hj, encodeChar_three (by omega) hthree hi hj hsuits, hlead]
  next hthree =>
  split at h
  · cases h
  next b₃ rest₃ =>
  split at h
  · cases h
  next hfourth =>
  rw [Bool.not_eq_true', Bool.not_eq_false] at hfourth
  obtain ⟨k, hk, rfl⟩ := exists_tail hfourth
  cases h
  refine ⟨[tail i, tail j, tail k], rest₃, rfl, ?_, rfl⟩
  rw [bits_tail hi, bits_tail hj, bits_tail hk, encodeChar_four (by omega) (by omega) hi hj hk hsuits,
    hlead]

/-- Pieces that were cut before stand in front of those that are cut yet. -/
theorem piecesAfter_eq (done : List Piece) (bytes : Bytes) :
    piecesAfter done bytes = done.reverse ++ pieces bytes := by
  unfold pieces
  induction hlength : bytes.length using Nat.strongRecOn generalizing done bytes with
  | ind length ih =>
    cases bytes with
    | nil => rw [piecesAfter, piecesAfter, List.reverse_nil, List.append_nil]
    | cons lead rest =>
      have hless : (rest.drop ((piece lead rest).size - 1)).length < length := by
        rw [← hlength, List.length_drop, List.length_cons]
        omega
      rw [piecesAfter, piecesAfter, ih _ hless _ _ rfl, ih _ hless [_] _ rfl, List.reverse_cons,
        List.append_assoc]
      rfl

/-- The first piece begins with the first byte, and the others are cut from what it does not cover. -/
theorem pieces_cons (lead : UInt8) (rest : Bytes) :
    pieces (lead :: rest) =
      piece lead rest :: pieces (rest.drop ((piece lead rest).size - 1)) := by
  rw [pieces, piecesAfter, piecesAfter_eq]
  rfl

/-- Where the characters of bytes are read off without a fault, these are their bytes. -/
theorem exists_of_charsOf {whole bytes : Bytes} {position : Nat} {done : List Char} {s : String}
    (h : charsOf whole position done (pieces bytes) = .ok s) :
    ∃ cs, s = String.ofList (done.reverse ++ cs) ∧ bytes = cs.flatMap encodeChar := by
  induction hlength : bytes.length using Nat.strongRecOn
    generalizing bytes whole position done with
  | ind length ih =>
    cases bytes with
    | nil =>
      rw [pieces, piecesAfter, List.reverse_nil, charsOf] at h
      exact ⟨[], by rw [List.append_nil, Except.ok.inj h], rfl⟩
    | cons lead rest =>
      rw [pieces_cons] at h
      cases hpiece : piece lead rest with
      | mk size content =>
        rw [hpiece] at h
        cases content with
        | error reason => cases h
        | ok c =>
          obtain ⟨others, behind, rfl, hc, rfl⟩ := encodeChar_of_piece hpiece
          rw [charsOf, Nat.add_sub_cancel, List.drop_left] at h
          have hless : behind.length < length := by
            rw [← hlength, List.length_cons, List.length_append]
            omega
          obtain ⟨cs, rfl, rfl⟩ := ih _ hless h rfl
          refine ⟨c :: cs, ?_, ?_⟩
          · rw [List.reverse_cons, List.append_assoc]
            rfl
          · rw [List.flatMap_cons, hc]
            rfl

/-- Bytes decode to a text exactly if they are the bytes of this text. -/
theorem decode_eq_ok_iff {bytes : Bytes} {s : String} : decode bytes = .ok s ↔ encode s = bytes := by
  constructor
  · intro h
    obtain ⟨cs, rfl, rfl⟩ := exists_of_charsOf h
    rw [encode, String.toList_ofList]
    rfl
  · rintro rfl
    exact decode_encode s

end DistrictAtlas.Utf8
