import DistrictAtlas.Text.Casing

/-!
# Lower case within ASCII

The rule for ASCII changes nothing beyond it, so what it does can be looked up in the first 128
characters. A text of ASCII is put in lower case character by character.
-/

namespace DistrictAtlas.Text

/-- The rule for ASCII leaves all other characters alone. -/
theorem toLower_of_not_ascii {c : Char} (h : ¬c.toNat < 0x80) : c.toLower = c := by
  have hZ : 'Z'.val.toNat = 90 := rfl
  have hupper : ¬(c.val ≥ 'A'.val ∧ c.val ≤ 'Z'.val) := by
    rintro ⟨-, hle⟩
    have hcode : c.toNat ≤ 90 := UInt32.le_iff_toNat_le.mp hle
    omega
  exact dif_neg hupper

/-- What the rule for ASCII takes to a character of ASCII is one itself. -/
theorem isAscii_of_toLower {c : Char} (h : c.toLower.toNat < 0x80) : c.toNat < 0x80 :=
  Nat.lt_of_not_le fun hnot => by
    rw [toLower_of_not_ascii (Nat.not_lt.mpr hnot)] at h
    exact Nat.not_lt.mpr hnot h

/-- What holds of all characters of ASCII holds of one of them. -/
theorem of_ascii {p : Char → Prop} (hall : ∀ code < 0x80, p (Char.ofNat code)) {c : Char}
    (hc : c.toNat < 0x80) : p c := by
  rw [← Char.ofNat_toNat c]
  exact hall _ hc

/-- The characters of a text are characters of ASCII if a look at each of them says so. -/
theorem isAscii_of_all {cs : List Char} (h : cs.all (·.toNat < 0x80) = true) :
    ∀ c ∈ cs, c.toNat < 0x80 :=
  fun c hc => of_decide_eq_true (List.all_eq_true.mp h c hc)

/-- The rule for ASCII makes no letter or digit of anything else, and the other way round. -/
theorem isAlphanum_toLower (c : Char) : c.toLower.isAlphanum = c.isAlphanum := by
  by_cases hc : c.toNat < 0x80
  · exact of_ascii (p := fun c => c.toLower.isAlphanum = c.isAlphanum) (by decide) hc
  · rw [toLower_of_not_ascii hc]

/-- The rule for ASCII need not be used twice. -/
theorem toLower_toLower (c : Char) : c.toLower.toLower = c.toLower := by
  by_cases hc : c.toNat < 0x80
  · exact of_ascii (p := fun c => c.toLower.toLower = c.toLower) (by decide) hc
  · rw [toLower_of_not_ascii hc, toLower_of_not_ascii hc]

/-- The rule for ASCII takes nothing but a point to a point. -/
theorem toLower_eq_point_iff (c : Char) : c.toLower = '.' ↔ c = '.' := by
  by_cases hc : c.toNat < 0x80
  · exact of_ascii (p := fun c => c.toLower = '.' ↔ c = '.') (by decide) hc
  · rw [toLower_of_not_ascii hc]

/-- The rest of a text of ASCII is put in lower case character by character. -/
theorem lowerAfter_of_ascii {cs : List Char} (hcs : ∀ c ∈ cs, c.toNat < 0x80)
    (before done : List Char) :
    lowerAfter before done cs = done.reverse ++ cs.map Char.toLower := by
  induction cs generalizing before done with
  | nil => rw [lowerAfter, List.map_nil, List.append_nil]
  | cons c rest ih =>
    obtain ⟨hc, hrest⟩ := List.forall_mem_cons.mp hcs
    have hsigma : c ≠ capitalSigma := by
      rintro rfl
      exact absurd hc (by decide)
    have hlower : lowerChar c = [c.toLower] := if_pos hc
    rw [lowerAfter, if_neg hsigma, hlower, ih hrest, List.reverse_singleton, List.singleton_append,
      List.reverse_cons, List.append_assoc, List.map_cons, List.singleton_append]

/-- A text of ASCII is put in lower case character by character. -/
theorem lowerChars_of_ascii {cs : List Char} (hcs : ∀ c ∈ cs, c.toNat < 0x80) :
    lowerChars cs = cs.map Char.toLower :=
  lowerAfter_of_ascii hcs [] []

/-- The characters that make a word of ASCII, whatever their case, are characters of ASCII. -/
theorem isAscii_of_map_toLower {cs word : List Char} (hword : ∀ c ∈ word, c.toNat < 0x80)
    (h : cs.map Char.toLower = word) : ∀ c ∈ cs, c.toNat < 0x80 := by
  intro c hc
  apply isAscii_of_toLower
  rw [← h] at hword
  exact hword _ (List.mem_map_of_mem hc)

end DistrictAtlas.Text
