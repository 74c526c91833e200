import DistrictAtlas.Text.Utf8

/-!
# Decoding undoes encoding

The bytes of a character are one piece, whatever follows them, and this piece is the character. So
the bytes of a text are cut where its characters were joined, and strict decoding finds no fault in
them.
-/

namespace DistrictAtlas.Utf8

/-- A number below `0x100` is a byte. -/
theorem toNat_ofNat {n : Nat} (h : n < 0x100) : (UInt8.ofNat n).toNat = n :=
  UInt8.toNat_ofNat_of_lt' h

/-- The byte inside a character that holds six bits of it. -/
def tail (k : Nat) : UInt8 := UInt8.ofNat (0x80 + k)

/-- It lies among the bytes that go on with a character. -/
theorem toNat_tail {k : Nat} (h : k < 0x40) : (tail k).toNat = 0x80 + k :=
  toNat_ofNat (by omega)

/-- Such a byte can stand inside a character. -/
theorem isContinuation_tail {k : Nat} (h : k < 0x40) : isContinuation (tail k) = true := by
  rw [isContinuation, toNat_tail h, Bool.and_eq_true, decide_eq_true_iff, decide_eq_true_iff]
  omega

/-- Its six bits are found again. -/
theorem bits_tail {k : Nat} (h : k < 0x40) : bits (tail k) = k := by
  rw [bits, toNat_tail h]
  omega

/-- A first byte is compared with another one by its number. -/
theorem ofNat_eq_iff {a b : Nat} (ha : a < 0x100) (hb : b < 0x100) :
    UInt8.ofNat a = UInt8.ofNat b ↔ a = b := by
  rw [← UInt8.toNat_inj, toNat_ofNat ha, toNat_ofNat hb]

/-- What the bits of a second byte have to be for the first byte `a` to be the right one: not so few
that a shorter form would do, and neither a surrogate nor beyond the last code point. -/
structure Suits (a k : Nat) : Prop where
  /-- Two bytes would not do. -/
  three : a = 0xE0 → 0x20 ≤ k
  /-- It is no surrogate. -/
  scalar : a = 0xED → k < 0x20
  /-- Three bytes would not do. -/
  four : a = 0xF0 → 0x10 ≤ k
  /-- It lies within the code points. -/
  last : a = 0xF4 → k < 0x10

/-- A second byte with such bits can follow the first one. -/
theorem isSecond_tail {a k : Nat} (ha : a < 0x100) (hk : k < 0x40) (h : Suits a k) :
    isSecond (UInt8.ofNat a) (tail k) = true := by
  obtain ⟨hthree, hscalar, hfour, hlast⟩ := h
  have hE0 : UInt8.ofNat a = 0xE0 ↔ a = 0xE0 := ofNat_eq_iff ha (by decide)
  have hED : UInt8.ofNat a = 0xED ↔ a = 0xED := ofNat_eq_iff ha (by decide)
  have hF0 : UInt8.ofNat a = 0xF0 ↔ a = 0xF0 := ofNat_eq_iff ha (by decide)
  have hF4 : UInt8.ofNat a = 0xF4 ↔ a = 0xF4 := ofNat_eq_iff ha (by decide)
  rw [isSecond, isContinuation_tail hk, Bool.true_and, toNat_tail hk]
  simp only [hE0, hED, hF0, hF4]
  split
  · next heq =>
    have hbits := hthree heq
    exact decide_eq_true (by omega)
  split
  · next heq =>
    have hbits := hscalar heq
    exact decide_eq_true (by omega)
  split
  · next heq =>
    have hbits := hfour heq
    exact decide_eq_true (by omega)
  split
  · next heq =>
    have hbits := hlast heq
    exact decide_eq_true (by omega)
  rfl

/-- One byte below `0x80` is a character. -/
theorem piece_one {a : Nat} (ha : a < 0x80) (rest : Bytes) :
    piece (UInt8.ofNat a) rest = .char 1 a := by
  have hlead : (UInt8.ofNat a).toNat = a := toNat_ofNat (by omega)
  unfold piece
  simp only [hlead]
  rw [if_pos ha]

/-- Two bytes that are a character. -/
theorem piece_two {a k : Nat} (hlow : 0xC2 ≤ a) (hhigh : a < 0xE0) (hk : k < 0x40) (rest : Bytes) :
    piece (UInt8.ofNat a) (tail k :: rest) = .char 2 (a % 0x20 * 0x40 + k) := by
  have hlead : (UInt8.ofNat a).toNat = a := toNat_ofNat (by omega)
  have hsecond : isSecond (UInt8.ofNat a) (tail k) = true :=
    isSecond_tail (by omega) hk ⟨by omega, by omega, by omega, by omega⟩
  unfold piece
  simp only [hlead, hsecond, bits_tail hk]
  rw [if_neg (by omega), if_neg (by omega), if_neg (by decide), if_pos hhigh]

/-- Three bytes that are a character. -/
theorem piece_three {a j k : Nat} (hlow : 0xE0 ≤ a) (hhigh : a < 0xF0) (hj : j < 0x40)
    (hk : k < 0x40) (h : Suits a j) (rest : Bytes) :
    piece (UInt8.ofNat a) (tail j :: tail k :: rest) =
      .char 3 (a % 0x10 * 0x1000 + j * 0x40 + k) := by
  have hlead : (UInt8.ofNat a).toNat = a := toNat_ofNat (by omega)
  have hsecond : isSecond (UInt8.ofNat a) (tail j) = true := isSecond_tail (by omega) hj h
  unfold piece
  simp only [hlead, hsecond, bits_tail hj, bits_tail hk, isContinuation_tail hk]
  rw [if_neg (by omega), if_neg (by omega), if_neg (by decide), if_neg (by omega),
    if_neg (by decide), if_pos hhigh]

/-- Four bytes that are a character. -/
theorem piece_four {a i j k : Nat} (hlow : 0xF0 ≤ a) (hhigh : a < 0xF5) (hi : i < 0x40)
    (hj : j < 0x40) (hk : k < 0x40) (h : Suits a i) (rest : Bytes) :
    piece (UInt8.ofNat a) (tail i :: tail j :: tail k :: rest) =
      .char 4 (a % 0x08 * 0x40000 + i * 0x1000 + j * 0x40 + k) := by
  have hlead : (UInt8.ofNat a).toNat = a := toNat_ofNat (by omega)
  have hsecond : isSecond (UInt8.ofNat a) (tail i) = true := isSecond_tail (by omega) hi h
  unfold piece
  simp only [hlead, hsecond, bits_tail hi, bits_tail hj, bits_tail hk, isContinuation_tail hj,
    isContinuation_tail hk]
  rw [if_neg (by omega), if_neg (by omega), if_neg (by decide), if_neg (by omega),
    if_neg (by decide), if_neg (by omega), if_neg (by decide)]

/-- A piece with the code point of a character is this character. -/
theorem Piece.char_eq (size : Nat) {code : Nat} {c : Char} (h : code = c.toNat) :
    Piece.char size code = ⟨size, .ok c⟩ := by
  rw [Piece.char, h, Char.ofNat_toNat]

/-- A character is its first byte and others, and with these the first byte makes one piece, which
is the character. -/
theorem encodeChar_eq (c : Char) : ∃ lead others, encodeChar c = lead :: others ∧
    ∀ rest, piece lead (others ++ rest) = ⟨others.length + 1, .ok c⟩ := by
  have hscalar : c.toNat < 0xD800 ∨ 0xDFFF < c.toNat ∧ c.toNat < 0x110000 := c.valid
  have hsix : ∀ m, m % 0x40 < 0x40 := fun m => Nat.mod_lt m (by decide)
  unfold encodeChar
  dsimp only
  split
  · next hone => exact ⟨_, [], rfl, fun rest => (piece_one hone _).trans (Piece.char_eq 1 rfl)⟩
  split
  · next htwo =>
    refine ⟨_, [tail (c.toNat % 0x40)], rfl, fun rest => ?_⟩
    exact (piece_two (by omega) (by omega) (hsix _) rest).trans (Piece.char_eq 2 (by omega))
  split
  · next hthree =>
    have hsuits : Suits (0xE0 + c.toNat / 0x1000) (c.toNat / 0x40 % 0x40) :=
      ⟨by omega, by omega, by omega, by omega⟩
    refine ⟨_, [tail (c.toNat / 0x40 % 0x40), tail (c.toNat % 0x40)], rfl, fun rest => ?_⟩
    exact (piece_three (by omega) (by omega) (hsix _) (hsix _) hsuits rest).trans
      (Piece.char_eq 3 (by omega))
  · have hsuits : Suits (0xF0 + c.toNat / 0x40000) (c.toNat / 0x1000 % 0x40) :=
      ⟨by omega, by omega, by omega, by omega⟩
    refine ⟨_, [tail (c.toNat / 0x1000 % 0x40), tail (c.toNat / 0x40 % 0x40),
      tail (c.toNat % 0x40)], rfl, fun rest => ?_⟩
    exact (piece_four (by omega) (by omega) (hsix _) (hsix _) (hsix _) hsuits rest).trans
      (Piece.char_eq 4 (by omega))

/-- The piece of a character. -/
def pieceOf (c : Char) : Piece := ⟨(encodeChar c).length, .ok c⟩

/-- The bytes of characters are cut into the pieces of these. -/
theorem piecesAfter_encoded (done : List Piece) (cs : List Char) :
    piecesAfter done (cs.flatMap encodeChar) = done.reverse ++ cs.map pieceOf := by
  induction cs generalizing done with
  | nil => rw [List.flatMap_nil, piecesAfter, List.map_nil, List.append_nil]
  | cons c rest ih =>
    obtain ⟨lead, others, hbytes, hpiece⟩ := encodeChar_eq c
    have hnext : piece lead (others ++ rest.flatMap encodeChar) = pieceOf c := by
      rw [hpiece, pieceOf, hbytes, List.length_cons]
    have hsize : (pieceOf c).size - 1 = others.length := by
      rw [pieceOf, hbytes, List.length_cons, Nat.add_sub_cancel]
    rw [List.flatMap_cons, hbytes, List.cons_append, piecesAfter]
    rw [hnext, hsize, List.drop_left, ih, List.reverse_cons, List.append_assoc]
    rfl

/-- The characters are read off their pieces without a fault. -/
theorem charsOf_pieceOf (bytes : Bytes) (position : Nat) (done cs : List Char) :
    charsOf bytes position done (cs.map pieceOf) = .ok (String.ofList (done.reverse ++ cs)) := by
  induction cs generalizing bytes position done with
  | nil => rw [List.map_nil, charsOf, List.append_nil]
  | cons c rest ih =>
    rw [List.map_cons, pieceOf, charsOf, ih, List.reverse_cons, List.append_assoc]
    rfl

/-- The bytes of a text decode to it. -/
theorem decode_encode (s : String) : decode (encode s) = .ok s := by
  unfold decode encode pieces
  rw [piecesAfter_encoded, List.reverse_nil, List.nil_append, charsOf_pieceOf, List.reverse_nil,
    List.nil_append, String.ofList_toList]

/-- Read leniently, the bytes of a text give it as well: there is nothing to replace. -/
theorem decodeLenient_encode (s : String) : decodeLenient (encode s) = s := by
  unfold decodeLenient encode pieces
  rw [piecesAfter_encoded, List.reverse_nil, List.nil_append, List.map_map]
  exact (congrArg String.ofList (List.map_id s.toList)).trans String.ofList_toList

end DistrictAtlas.Utf8
