import DistrictAtlas.Text.Casing

/-!
# Upper case is final

A character that comes out of upper-casing is its own upper-case form, over the whole of the case
tables. So upper-casing what is in upper case changes nothing, and a text stays in upper case when
characters are taken away from it.
-/

namespace DistrictAtlas.Text

/-- The code points of a run. -/
def CaseRun.codes (run : CaseRun) : List Nat :=
  (List.range run.count).map fun index => run.first + index * run.step

/-- The images of the code points of a run. -/
def CaseRun.images (run : CaseRun) : List Nat :=
  (List.range run.count).map fun index => run.target + index * run.step

/-- An image under a run is one of its images, and it is that of one of its code points. -/
theorem CaseRun.mem_of_image? {run : CaseRun} {code image : Nat}
    (h : run.image? code = some image) : code ∈ run.codes ∧ image ∈ run.images := by
  unfold CaseRun.image? at h
  split at h
  · next hrange =>
    obtain ⟨hfirst, hlast, hstep⟩ := hrange
    cases h
    have hsteps : (code - run.first) / run.step * run.step = code - run.first :=
      Nat.div_mul_cancel (Nat.dvd_of_mod_eq_zero hstep)
    have hindex : (code - run.first) / run.step < run.count := by
      apply Nat.div_lt_of_lt_mul
      rw [Nat.mul_comm]
      omega
    constructor
    · refine List.mem_map.mpr ⟨_, List.mem_range.mpr hindex, ?_⟩
      omega
    · refine List.mem_map.mpr ⟨_, List.mem_range.mpr hindex, ?_⟩
      omega
  · cases h

/-- The code points outside ASCII that have another upper-case form. -/
def casedCodes : List Nat :=
  upperRuns.flatMap CaseRun.codes ++ upperExpansions.map (·.1)

/-- The code points of all upper-case forms of these. -/
def formCodes : List Nat :=
  upperRuns.flatMap CaseRun.images ++ upperExpansions.flatMap (·.2)

/-- A set of code points as one number, with a bit for each of them. -/
def bitsOf (codes : List Nat) : Nat :=
  codes.foldr (fun code bits => 1 <<< code ||| bits) 0

/-- The bit of every code point in the set is there. -/
theorem testBit_bitsOf {codes : List Nat} {code : Nat} (h : code ∈ codes) :
    (bitsOf codes).testBit code = true := by
  induction codes with
  | nil => cases h
  | cons first rest ih =>
    have hstep : bitsOf (first :: rest) = (1 <<< first) ||| bitsOf rest := rfl
    rw [hstep, Nat.testBit_or]
    rcases List.mem_cons.mp h with rfl | hrest
    · rw [Nat.one_shiftLeft, Nat.testBit_two_pow_self, Bool.true_or]
    · rw [ih hrest, Bool.or_true]

/-- Two sets of code points are disjoint if they have no bit in common. -/
theorem not_mem_of_bitsOf {codes others : List Nat} (hapart : bitsOf codes &&& bitsOf others = 0)
    {code : Nat} (h : code ∈ codes) : code ∉ others := by
  intro hother
  have hboth : (bitsOf codes &&& bitsOf others).testBit code = true := by
    rw [Nat.testBit_and, testBit_bitsOf h, testBit_bitsOf hother, Bool.true_and]
  rw [hapart, Nat.zero_testBit] at hboth
  cases hboth

/-- No code point of an upper-case form has another upper-case form. -/
theorem not_mem_casedCodes {code : Nat} (h : code ∈ formCodes) : code ∉ casedCodes :=
  -- as sets of bits the two lists have nothing in common, which is one operation on two numbers
  not_mem_of_bitsOf (by decide +kernel) h

/-- The character is its own upper-case form. -/
def IsUpper (c : Char) : Prop := upperChar c = [c]

instance (c : Char) : Decidable (IsUpper c) := inferInstanceAs (Decidable (upperChar c = [c]))

/-- What an ASCII character becomes is in upper case. -/
theorem isUpper_toUpper : ∀ code < 0x80, IsUpper (Char.ofNat code).toUpper := by decide

/-- The ASCII characters of upper-case forms are in upper case. -/
theorem toUpper_formCodes : ∀ code ∈ formCodes, code < 0x80 →
    (Char.ofNat code).toUpper = Char.ofNat code := by decide +kernel

/-- A code point with an image under a list of runs is in one of the runs, and its image among the
images of this run. -/
theorem CaseRun.exists_of_lookup {runs : List CaseRun} {code image : Nat}
    (h : CaseRun.lookup runs code = some image) :
    ∃ run ∈ runs, code ∈ run.codes ∧ image ∈ run.images := by
  obtain ⟨run, hrun, himage⟩ := List.exists_of_findSome?_eq_some h
  exact ⟨run, hrun, CaseRun.mem_of_image? himage⟩

/-- The characters found for a code point are an entry of the table of expansions. -/
theorem mem_upperExpansions_of_lookup {code : Nat} {codes : List Nat}
    (h : upperExpansions.lookup code = some codes) : (code, codes) ∈ upperExpansions := by
  obtain ⟨before, behind, htable, -⟩ := List.lookup_eq_some_iff.mp h
  rw [htable]
  exact List.mem_append_right before List.mem_cons_self

/-- Outside the tables a character is in upper case, when the rule for ASCII leaves it as it is. -/
theorem isUpper_of_not_mem {c : Char} (hascii : c.toNat < 0x80 → c.toUpper = c)
    (h : c.toNat ∉ casedCodes) : IsUpper c := by
  have hruns : CaseRun.lookup upperRuns c.toNat = none := by
    rw [Option.eq_none_iff_forall_ne_some]
    intro image himage
    obtain ⟨run, hrun, hcode, -⟩ := CaseRun.exists_of_lookup himage
    exact h (List.mem_append_left _ (List.mem_flatMap.mpr ⟨run, hrun, hcode⟩))
  have hexpansions : upperExpansions.lookup c.toNat = none := by
    rw [Option.eq_none_iff_forall_ne_some]
    intro codes hcodes
    have hentry := mem_upperExpansions_of_lookup hcodes
    exact h (List.mem_append_right _ (List.mem_map.mpr ⟨_, hentry, rfl⟩))
  unfold IsUpper upperChar
  by_cases hsmall : c.toNat < 0x80
  · rw [if_pos hsmall, hascii hsmall]
  · rw [if_neg hsmall, hruns, hexpansions]

/-- The characters of upper-case forms are in upper case. -/
theorem isUpper_ofNat {code : Nat} (h : code ∈ formCodes) : IsUpper (Char.ofNat code) := by
  by_cases hvalid : code.isValidChar
  · have hcode : (Char.ofNat code).toNat = code := by
      unfold Char.ofNat
      rw [dif_pos hvalid]
      rfl
    apply isUpper_of_not_mem
    · intro hsmall
      rw [hcode] at hsmall
      exact toUpper_formCodes code h hsmall
    · rw [hcode]
      exact not_mem_casedCodes h
  · -- a number that is no code point stands for the null character
    have hnull : Char.ofNat code = Char.ofNat 0 := by
      unfold Char.ofNat
      rw [dif_neg hvalid]
      rfl
    rw [hnull]
    exact isUpper_toUpper 0 (by decide)

/-- What a character becomes by upper-casing is told by the rule for ASCII or by the tables, or it is
the character itself. -/
theorem mem_upperChar_cases {c d : Char} (h : d ∈ upperChar c) :
    (c.toNat < 0x80 ∧ d = c.toUpper) ∨ (∃ code ∈ formCodes, d = Char.ofNat code) ∨
      (d = c ∧ IsUpper c) := by
  by_cases hascii : c.toNat < 0x80
  · rw [upperChar, if_pos hascii, List.mem_singleton] at h
    exact Or.inl ⟨hascii, h⟩
  · rw [upperChar, if_neg hascii] at h
    cases hruns : CaseRun.lookup upperRuns c.toNat with
    | some code =>
      obtain ⟨run, hrun, -, himage⟩ := CaseRun.exists_of_lookup hruns
      rw [hruns, List.mem_singleton] at h
      exact Or.inr (Or.inl
        ⟨code, List.mem_append_left _ (List.mem_flatMap.mpr ⟨run, hrun, himage⟩), h⟩)
    | none =>
      rw [hruns] at h
      cases hexpansions : upperExpansions.lookup c.toNat with
      | some codes =>
        have hentry := mem_upperExpansions_of_lookup hexpansions
        rw [hexpansions] at h
        obtain ⟨code, hcode, hd⟩ := List.mem_map.mp h
        exact Or.inr (Or.inl
          ⟨code, List.mem_append_right _ (List.mem_flatMap.mpr ⟨_, hentry, hcode⟩), hd.symm⟩)
      | none =>
        rw [hexpansions, List.mem_singleton] at h
        have hself : IsUpper c := by rw [IsUpper, upperChar, if_neg hascii, hruns, hexpansions]
        exact Or.inr (Or.inr ⟨h, hself⟩)

/-- Whatever a character becomes by upper-casing is in upper case. -/
theorem isUpper_of_mem_upperChar {c d : Char} (h : d ∈ upperChar c) : IsUpper d := by
  rcases mem_upperChar_cases h with ⟨hascii, rfl⟩ | ⟨code, hcode, rfl⟩ | ⟨rfl, hself⟩
  · have hupper := isUpper_toUpper c.toNat hascii
    rwa [Char.ofNat_toNat] at hupper
  · exact isUpper_ofNat hcode
  · exact hself

/-- All characters of an upper-cased text are in upper case. -/
theorem isUpper_of_mem_upperChars {cs : List Char} {c : Char} (h : c ∈ upperChars cs) :
    IsUpper c := by
  obtain ⟨_, -, hc⟩ := List.mem_flatMap.mp h
  exact isUpper_of_mem_upperChar hc

/-- Characters in upper case stay as they are. -/
theorem upperChars_eq_self {cs : List Char} (h : ∀ c ∈ cs, IsUpper c) : upperChars cs = cs := by
  induction cs with
  | nil => rfl
  | cons c rest ih =>
    have hc : upperChar c = [c] := h c List.mem_cons_self
    have hrest := ih fun d hd => h d (List.mem_cons_of_mem c hd)
    rw [upperChars_cons, hc, hrest, List.singleton_append]

/-- Upper-casing what was upper-cased changes nothing. -/
theorem upper_upper (s : String) : upper (upper s) = upper s := by
  unfold upper
  rw [String.toList_ofList, upperChars_eq_self fun _ => isUpper_of_mem_upperChars]

end DistrictAtlas.Text
