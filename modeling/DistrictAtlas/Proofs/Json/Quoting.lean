import DistrictAtlas.Json.Printer
import DistrictAtlas.Json.Reader
import Mathlib.Tactic.SplitIfs

/-!
# Quoted texts are read back

A text that was put between double quotes is read as it was, whatever characters it holds: every
escape stands for the one character that it was made from, and all others stand for themselves. No
control character is left between the quotes, so a quoted text never breaks the line it stands on.
-/

namespace DistrictAtlas.Json

/-- The characters of a quoted text. -/
theorem toList_quoted (s : String) :
    (quoted s).toList = '"' :: (s.toList.flatMap escapeChar ++ ['"']) :=
  String.toList_ofList

/-! ## How a character is written -/

/-- The letters of the short escapes that are written. -/
def shortLetters : List Char := ['"', '\\', 'n', 'r', 't', 'f', 'b']

/-- The ways in which a character is written: by a short escape, by its number when it is a control
character, or as itself. -/
inductive Written (c : Char) : List Char → Prop where
  /-- A backslash and a letter that stands for the character. -/
  | short {letter : Char} (known : letter ∈ shortLetters) (stands : shortEscape? letter = some c) :
    Written c ['\\', letter]
  /-- A backslash and the number of the character. -/
  | unicode (control : c.toNat < 0x20) : Written c ('\\' :: 'u' :: Text.hexDigits 4 c.toNat)
  /-- The character itself. -/
  | plain (quote : c ≠ '"') (slash : c ≠ '\\') (control : ¬c.toNat < 0x20) : Written c [c]

/-- Every character is written in one of the three ways. -/
theorem written_escapeChar (c : Char) : Written c (escapeChar c) := by
  unfold escapeChar
  split_ifs with hquote hslash hfeed hreturn htab hpage hback hcontrol
  · exact .short (by decide) (congrArg some hquote.symm)
  · exact .short (by decide) (congrArg some hslash.symm)
  · exact .short (by decide) (congrArg some hfeed.symm)
  · exact .short (by decide) (congrArg some hreturn.symm)
  · exact .short (by decide) (congrArg some htab.symm)
  · exact .short (by decide) (congrArg some hpage.symm)
  · exact .short (by decide) (congrArg some hback.symm)
  · exact .unicode hcontrol
  · exact .plain hquote hslash hcontrol

/-! ## Numeric escapes -/

/-- A hexadecimal digit has the value it was written for. -/
theorem hexValue?_hexDigit :
    ∀ {d : Nat}, d < 16 → Text.hexValue? (Text.hexDigit d) = some d := by
  decide

/-- Four hexadecimal digits are read as the number they write. -/
theorem hex4?_hexDigits {n : Nat} (h : n < 65536) (rest : List Char) :
    hex4? (Text.hexDigits 4 n ++ rest) = some n := by
  have hdigits : Text.hexDigits 4 n ++ rest =
      Text.hexDigit (n / 4096 % 16) :: Text.hexDigit (n / 256 % 16) ::
        Text.hexDigit (n / 16 % 16) :: Text.hexDigit (n / 1 % 16) :: rest := rfl
  have hvalue (k : Nat) : Text.hexValue? (Text.hexDigit (k % 16)) = some (k % 16) :=
    hexValue?_hexDigit (Nat.mod_lt k (by decide))
  have hsum : ((n / 4096 % 16 * 16 + n / 256 % 16) * 16 + n / 16 % 16) * 16 + n / 1 % 16 = n := by
    omega
  rw [hdigits, hex4?, hvalue, hvalue, hvalue, hvalue]
  exact congrArg some hsum

/-- The escape of a control character stands for it, where something follows. -/
theorem unicodeEscape_hexDigits {n : Nat} (h : n < 0x20) {rest : List Char} (hrest : rest ≠ []) :
    unicodeEscape (Text.hexDigits 4 n ++ rest) = .ok (.char (Char.ofNat n), 4) := by
  have hdrop : (Text.hexDigits 4 n ++ rest).drop 4 = rest := rfl
  have hhalf : isHighHalf n = false := by
    simp only [isHighHalf, Bool.and_eq_false_iff, decide_eq_false_iff_not]
    omega
  have hpiece : TextPiece.ofCode n = .char (Char.ofNat n) := dif_neg (by omega)
  rw [unicodeEscape, hdrop, List.isEmpty_eq_false_iff.mpr hrest, hex4?_hexDigits (by omega) rest]
  simp only [Bool.false_eq_true, if_false, hhalf, Bool.false_and, hpiece]
  split <;> rfl

/-! ## Reading one character -/

section ReadText

variable (opened : List Char) (done : List TextPiece)

/-- A text ends at a double quote. -/
theorem readText_end (rest : List Char) :
    readText opened done ('"' :: rest) = .ok (.ofPieces done.reverse, rest) := by
  rw [readText]

/-- A character that is no quote, no backslash and no control character stands for itself. -/
theorem readText_plain {c : Char} (hquote : c ≠ '"') (hslash : c ≠ '\\') (hcontrol : ¬c.toNat < 0x20)
    (rest : List Char) :
    readText opened done (c :: rest) = readText opened (.char c :: done) rest := by
  rw [readText, if_neg hcontrol]
  all_goals simp_all

/-- An escape with one letter stands for its character. -/
theorem readText_short {letter c : Char} (h : shortEscape? letter = some c) (rest : List Char) :
    readText opened done ('\\' :: letter :: rest) = readText opened (.char c :: done) rest := by
  have hu : letter ≠ 'u' := by
    rintro rfl
    cases h
  rw [readText, h]
  all_goals simp_all

/-- A numeric escape stands for its control character, where something follows. -/
theorem readText_unicode {n : Nat} (h : n < 0x20) {rest : List Char} (hrest : rest ≠ []) :
    readText opened done ('\\' :: 'u' :: (Text.hexDigits 4 n ++ rest)) =
      readText opened (.char (Char.ofNat n) :: done) rest := by
  rw [readText, unicodeEscape_hexDigits h hrest]
  rfl

/-- What a character was written as is read as this character, where something follows. -/
theorem readText_written {c : Char} {cs : List Char} (h : Written c cs) {rest : List Char}
    (hrest : rest ≠ []) :
    readText opened done (cs ++ rest) = readText opened (.char c :: done) rest := by
  cases h with
  | short hknown hstands => exact readText_short opened done hstands rest
  | unicode hcontrol =>
    have hread := readText_unicode opened done hcontrol hrest
    rwa [Char.ofNat_toNat] at hread
  | plain hquote hslash hcontrol => exact readText_plain opened done hquote hslash hcontrol rest

end ReadText

/-! ## Reading whole texts -/

/-- What a text was written as is read up to its closing quote, behind what was read before. -/
theorem readText_flatMap (opened cs : List Char) (done : List TextPiece) (rest : List Char) :
    readText opened done (cs.flatMap escapeChar ++ '"' :: rest) =
      .ok (.ofPieces (done.reverse ++ cs.map .char), rest) := by
  induction cs generalizing done with
  | nil => rw [List.flatMap_nil, List.nil_append, readText_end, List.map_nil, List.append_nil]
  | cons c cs ih =>
    have hmore : cs.flatMap escapeChar ++ '"' :: rest ≠ [] := by simp
    have hfirst := readText_written opened done (written_escapeChar c) hmore
    rw [List.flatMap_cons, List.append_assoc, hfirst, ih, List.reverse_cons, List.append_assoc,
      List.singleton_append, List.map_cons]

/-- What a text was written as is read as the text. -/
theorem readText_text (opened : List Char) (s : String) (rest : List Char) :
    readText opened [] (s.toList.flatMap escapeChar ++ '"' :: rest) = .ok (.whole s, rest) := by
  rw [readText_flatMap, List.reverse_nil, List.nil_append, Wording.ofPieces_map_char,
    String.ofList_toList]

/-! ## No control characters -/

/-- A hexadecimal digit is no control character. -/
theorem le_toNat_of_mem_hexDigits {width n : Nat} {c : Char} (h : c ∈ Text.hexDigits width n) :
    0x20 ≤ c.toNat := by
  have hdigit : ∀ d < 16, 0x20 ≤ (Text.hexDigit d).toNat := by decide
  obtain ⟨i, -, rfl⟩ := List.mem_map.mp h
  exact hdigit _ (Nat.mod_lt _ (by decide))

/-- No control character is written for a character, whatever it is. -/
theorem Written.le_toNat {c d : Char} {cs : List Char} (h : Written c cs) (hd : d ∈ cs) :
    0x20 ≤ d.toNat := by
  have hslash : 0x20 ≤ '\\'.toNat := by decide
  have hmark : 0x20 ≤ 'u'.toNat := by decide
  have hletters : ∀ letter ∈ shortLetters, 0x20 ≤ letter.toNat := by simp [shortLetters]
  cases h with
  | short hknown _ =>
    simp only [List.mem_cons, List.not_mem_nil, or_false] at hd
    rcases hd with rfl | rfl
    · exact hslash
    · exact hletters _ hknown
  | unicode _ =>
    simp only [List.mem_cons] at hd
    rcases hd with rfl | rfl | hdigit
    · exact hslash
    · exact hmark
    · exact le_toNat_of_mem_hexDigits hdigit
  | plain _ _ hcontrol =>
    rw [List.mem_singleton] at hd
    subst hd
    omega

/-- No control character stands in a quoted text. -/
theorem le_toNat_of_mem_quoted {s : String} {c : Char} (h : c ∈ (quoted s).toList) :
    0x20 ≤ c.toNat := by
  have hquote : 0x20 ≤ '"'.toNat := by decide
  rw [toList_quoted, List.mem_cons, List.mem_append, List.mem_singleton] at h
  rcases h with rfl | hinside | rfl
  · exact hquote
  · obtain ⟨d, -, hd⟩ := List.mem_flatMap.mp hinside
    exact (written_escapeChar d).le_toNat hd
  · exact hquote

end DistrictAtlas.Json
