import DistrictAtlas.Proofs.Text.LowerCase
import DistrictAtlas.Proofs.Text.UpperCase

/-!
# Lower case is final

A character that comes out of lower-casing is its own lower-case form, over the whole of the case
tables, and so is the final sigma. So lower-casing what is in lower case changes nothing. What stands
around a sigma decides between its two small forms and nothing else: where these are taken for one,
a text is put in lower case character by character.
-/

namespace DistrictAtlas.Text

/-- The code points outside ASCII that have another lower-case form. -/
def capitalCodes : List Nat := 0x130 :: lowerRuns.flatMap CaseRun.codes

/-- The code points of all lower-case forms of these. -/
def smallCodes : List Nat := 0x69 :: 0x307 :: lowerRuns.flatMap CaseRun.images

/-- No code point of a lower-case form has another lower-case form. -/
theorem not_mem_capitalCodes {code : Nat} (h : code ∈ smallCodes) : code ∉ capitalCodes :=
  not_mem_of_bitsOf (by decide +kernel) h

/-- The code points of lower-case forms are those of characters. -/
theorem toNat_ofNat_smallCodes : ∀ code ∈ smallCodes, (Char.ofNat code).toNat = code := by
  decide +kernel

/-- The ASCII characters of lower-case forms are in lower case. -/
theorem toLower_smallCodes : ∀ code ∈ smallCodes, code < 0x80 →
    (Char.ofNat code).toLower = Char.ofNat code := by decide +kernel

/-- The character is its own lower-case form. -/
def IsLower (c : Char) : Prop := lowerChar c = [c]

instance (c : Char) : Decidable (IsLower c) := inferInstanceAs (Decidable (lowerChar c = [c]))

/-- Outside the tables a character is in lower case, when the rule for ASCII leaves it as it is. -/
theorem isLower_of_not_mem {c : Char} (hascii : c.toNat < 0x80 → c.toLower = c)
    (h : c.toNat ∉ capitalCodes) : IsLower c := by
  rw [capitalCodes, List.mem_cons, not_or] at h
  have hruns : CaseRun.lookup lowerRuns c.toNat = none := by
    rw [Option.eq_none_iff_forall_ne_some]
    intro image himage
    obtain ⟨run, hrun, hcode, -⟩ := CaseRun.exists_of_lookup himage
    exact h.2 (List.mem_flatMap.mpr ⟨run, hrun, hcode⟩)
  unfold IsLower lowerChar
  by_cases hsmall : c.toNat < 0x80
  · rw [if_pos hsmall, hascii hsmall]
  · rw [if_neg hsmall, if_neg h.1, hruns]

/-- The characters of lower-case forms are in lower case. -/
theorem isLower_ofNat {code : Nat} (h : code ∈ smallCodes) : IsLower (Char.ofNat code) := by
  have hcode := toNat_ofNat_smallCodes code h
  apply isLower_of_not_mem
  · rw [hcode]
    exact toLower_smallCodes code h
  · rw [hcode]
    exact not_mem_capitalCodes h

/-- What an ASCII character becomes is in lower case. -/
theorem isLower_toLower {c : Char} (hc : c.toNat < 0x80) : IsLower c.toLower :=
  of_ascii (p := fun c => IsLower c.toLower) (by decide) hc

/-- Whatever a character becomes by lower-casing is in lower case. -/
theorem isLower_of_mem_lowerChar {c d : Char} (h : d ∈ lowerChar c) : IsLower d := by
  unfold lowerChar at h
  split at h
  · next hascii =>
    rw [List.mem_singleton.mp h]
    exact isLower_toLower hascii
  · split at h
    · rcases List.mem_cons.mp h with rfl | hsecond
      · exact isLower_ofNat List.mem_cons_self
      · rw [List.mem_singleton.mp hsecond]
        exact isLower_ofNat (List.mem_cons_of_mem _ List.mem_cons_self)
    · split at h
      · next image hlookup =>
        obtain ⟨run, hrun, -, himage⟩ := CaseRun.exists_of_lookup hlookup
        rw [List.mem_singleton.mp h]
        exact isLower_ofNat (List.mem_cons_of_mem _ (List.mem_cons_of_mem _
          (List.mem_flatMap.mpr ⟨run, hrun, himage⟩)))
      · next hnone =>
        rw [List.mem_singleton.mp h]
        unfold IsLower lowerChar
        rw [if_neg ‹_›, if_neg ‹_›, hnone]

/-- The small sigma inside a word. -/
def innerSigma : Char := Char.ofNat 0x3C3

/-- The small sigma at the end of a word. -/
def finalSigma : Char := Char.ofNat 0x3C2

/-- By the tables the capital sigma becomes the small one inside a word. -/
theorem lowerChar_capitalSigma : lowerChar capitalSigma = [innerSigma] := by decide +kernel

/-- The capital sigma becomes one of the two small ones. -/
theorem lowerSigma_cases (before after : List Char) :
    lowerSigma before after = finalSigma ∨ lowerSigma before after = innerSigma := by
  unfold lowerSigma
  split
  · exact Or.inl rfl
  · exact Or.inr rfl

/-- What lower-casing the rest of a text adds is in lower case. -/
theorem isLower_of_mem_lowerAfter {before done cs : List Char} {d : Char}
    (h : d ∈ lowerAfter before done cs) : d ∈ done ∨ IsLower d := by
  induction cs generalizing before done with
  | nil => exact Or.inl (List.mem_reverse.mp h)
  | cons c rest ih =>
    rw [lowerAfter] at h
    rcases ih h with hmem | hlower
    · rcases List.mem_append.mp hmem with himage | hdone
      · refine Or.inr ?_
        rw [List.mem_reverse] at himage
        split at himage
        · rw [List.mem_singleton.mp himage]
          rcases lowerSigma_cases before rest with hfinal | hinner
          · rw [hfinal]
            decide +kernel
          · rw [hinner]
            decide +kernel
        · exact isLower_of_mem_lowerChar himage
      · exact Or.inl hdone
    · exact Or.inr hlower

/-- All characters of a lower-cased text are in lower case. -/
theorem isLower_of_mem_lowerChars {cs : List Char} {d : Char} (h : d ∈ lowerChars cs) : IsLower d :=
  (isLower_of_mem_lowerAfter h).resolve_left List.not_mem_nil

/-- A rest in lower case is added as it is. -/
theorem lowerAfter_eq_self {cs : List Char} (h : ∀ c ∈ cs, IsLower c) (before done : List Char) :
    lowerAfter before done cs = done.reverse ++ cs := by
  induction cs generalizing before done with
  | nil => rw [lowerAfter, List.append_nil]
  | cons c rest ih =>
    obtain ⟨hc, hrest⟩ := List.forall_mem_cons.mp h
    have hsigma : c ≠ capitalSigma := by
      rintro rfl
      exact absurd hc (by decide +kernel)
    have hlower : lowerChar c = [c] := hc
    rw [lowerAfter, if_neg hsigma, hlower, ih hrest, List.reverse_singleton, List.singleton_append,
      List.reverse_cons, List.append_assoc, List.singleton_append]

/-- Characters in lower case stay as they are. -/
theorem lowerChars_eq_self {cs : List Char} (h : ∀ c ∈ cs, IsLower c) : lowerChars cs = cs :=
  lowerAfter_eq_self h [] []

/-- The two small forms of sigma taken for one. -/
def oneSigma (c : Char) : Char := if c = finalSigma then innerSigma else c

/-- Where the two small forms of sigma are taken for one, the rest of a text is put in lower case
character by character. -/
theorem map_oneSigma_lowerAfter (before done cs : List Char) :
    (lowerAfter before done cs).map oneSigma =
      (done.reverse ++ cs.flatMap lowerChar).map oneSigma := by
  induction cs generalizing before done with
  | nil => rw [lowerAfter, List.flatMap_nil, List.append_nil]
  | cons c rest ih =>
    have himage : (if c = capitalSigma then [lowerSigma before rest] else lowerChar c).map oneSigma =
        (lowerChar c).map oneSigma := by
      split
      · next hsigma =>
        rw [hsigma, lowerChar_capitalSigma]
        rcases lowerSigma_cases before rest with hfinal | hinner
        · rw [hfinal]
          rfl
        · rw [hinner]
      · rfl
    rw [lowerAfter, ih, List.reverse_append, List.reverse_reverse, List.flatMap_cons, List.append_assoc,
      List.map_append, List.map_append, himage, List.map_append, List.map_append]

/-- Where the two small forms of sigma are taken for one, a text is put in lower case character by
character. -/
theorem map_oneSigma_lowerChars (cs : List Char) :
    (lowerChars cs).map oneSigma = (cs.flatMap lowerChar).map oneSigma :=
  map_oneSigma_lowerAfter [] [] cs

/-- Without a final sigma there is nothing to be taken for another character. -/
theorem map_oneSigma_eq_self {cs : List Char} (h : finalSigma ∉ cs) : cs.map oneSigma = cs := by
  have hsame : cs.map oneSigma = cs.map id :=
    List.map_congr_left fun c hc => if_neg fun hfinal : c = finalSigma => h (hfinal ▸ hc)
  rw [hsame, List.map_id]

/-- Nothing becomes a text without a small sigma, by taking the two for one, but this text. -/
theorem map_oneSigma_eq_iff {cs text : List Char} (hinner : innerSigma ∉ text)
    (hfinal : finalSigma ∉ text) : cs.map oneSigma = text ↔ cs = text := by
  constructor
  · intro h
    have hnone : finalSigma ∉ cs := fun hmem =>
      hinner (h ▸ List.mem_map.mpr ⟨finalSigma, hmem, if_pos rfl⟩)
    rwa [map_oneSigma_eq_self hnone] at h
  · rintro rfl
    exact map_oneSigma_eq_self hfinal

/-- What a part of a text becomes in lower case stands in the lower-cased text, unless a sigma is in
it. -/
theorem infix_lowerChars {part cs : List Char} (hpart : part <:+: cs)
    (hinner : innerSigma ∉ lowerChars part) (hfinal : finalSigma ∉ lowerChars part) :
    lowerChars part <:+: lowerChars cs := by
  obtain ⟨front, back, rfl⟩ := hpart
  have hwhole := map_oneSigma_lowerChars (front ++ part ++ back)
  rw [List.flatMap_append, List.flatMap_append, List.map_append, List.map_append,
    ← map_oneSigma_lowerChars part, map_oneSigma_eq_self hfinal] at hwhole
  obtain ⟨before, behind, hlower, hbefore, -⟩ := List.map_eq_append_iff.mp hwhole
  obtain ⟨lead, middle, rfl, -, hmiddle⟩ := List.map_eq_append_iff.mp hbefore
  rw [hlower, (map_oneSigma_eq_iff hinner hfinal).mp hmiddle]
  exact List.infix_append lead _ behind

end DistrictAtlas.Text
