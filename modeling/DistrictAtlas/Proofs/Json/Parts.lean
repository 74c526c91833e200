import DistrictAtlas.Proofs.Json.Scalars

/-!
# Reading lists and mappings part by part

What one step does in the middle of a list or mapping: it reads an item, or a key and its value, and
then either goes on behind a comma or ends at the closing bracket. Spaces between the parts make no
difference. A value that is refused stops the reading.
-/

namespace DistrictAtlas.Json

/-- Nothing but spaces. -/
def IsGap (gap : List Char) : Prop := ∀ c ∈ gap, isSpace c = true

/-- Spaces are skipped. -/
theorem skipSpace_gap {gap : List Char} (h : IsGap gap) (rest : List Char) :
    skipSpace (gap ++ rest) = skipSpace rest :=
  List.dropWhile_append_of_pos h

/-- Spaces are skipped up to the start of a value. -/
theorem skipSpace_gap_value {gap cs : List Char} (h : IsGap gap) (hcs : StartsValue cs) :
    skipSpace (gap ++ cs) = cs := by
  rw [skipSpace_gap h, hcs.spec.1]

/-- A comma is no space. -/
theorem skipSpace_comma (rest : List Char) : skipSpace (',' :: rest) = ',' :: rest := rfl

/-- A colon is no space. -/
theorem skipSpace_colon (rest : List Char) : skipSpace (':' :: rest) = ':' :: rest := rfl

/-- No space at all. -/
theorem isGap_nil : IsGap [] := nofun

/-- One blank. -/
theorem isGap_blank : IsGap [' '] := by simp [IsGap, isSpace]

/-- A line end and the indentation behind it. -/
theorem isGap_newline (level : Nat) : IsGap (newline level).toList := by
  intro c hc
  rw [newline, String.toList_ofList, List.mem_cons] at hc
  rcases hc with rfl | hblank
  · decide
  · rw [List.eq_of_mem_replicate hblank]
    decide

variable {fuel depth : Nat} {cs more rest gap : List Char}

/-! ## Items -/

section Items

variable (done : List Value) {item : Value}

/-- A list ends behind its last item. -/
theorem readItems_last (hgap : IsGap gap)
    (h : readValue fuel depth cs = .ok (item, gap ++ ']' :: rest)) :
    readItems (fuel + 1) depth done cs = .ok (.list (done.reverse ++ [item]), rest) := by
  have hskip : skipSpace (gap ++ ']' :: rest) = ']' :: rest := skipSpace_gap hgap _
  simp only [readItems, h, hskip, List.reverse_cons]

/-- Behind a comma the next item is read. -/
theorem readItems_next (hgap : IsGap gap) (hmore : StartsValue more)
    (h : readValue fuel depth cs = .ok (item, ',' :: (gap ++ more))) :
    readItems (fuel + 1) depth done cs = readItems fuel depth (item :: done) more := by
  simp only [readItems, h, skipSpace_comma, skipSpace_gap_value hgap hmore]

/-- An item that is refused stops the reading of a list. -/
theorem readItems_stop {stop : Stop} (h : readValue fuel depth cs = .error stop) :
    readItems (fuel + 1) depth done cs = .error stop := by
  simp only [readItems, h]

end Items

/-! ## Entries -/

section Entries

variable (done : List (Scalar × Value)) (key : String) {value : Value}

/-- The characters of a key, the colon behind it and one blank, before a value. -/
def keyChars (key : String) (cs : List Char) : List Char :=
  (quoted key).toList ++ ':' :: ' ' :: cs

/-- The quotes around a key stand where they are read. -/
theorem keyChars_eq (key : String) (cs : List Char) :
    keyChars key cs = '"' :: (key.toList.flatMap escapeChar ++ '"' :: ':' :: ' ' :: cs) := by
  rw [keyChars, toList_quoted, List.cons_append, List.append_assoc, List.singleton_append]

/-- What follows the value follows the key. -/
theorem keyChars_append (cs rest : List Char) :
    keyChars key cs ++ rest = keyChars key (cs ++ rest) := by
  rw [keyChars, keyChars, List.append_assoc]
  rfl

/-- A key and the colon behind it are longer than what follows. -/
theorem length_lt_keyChars (cs : List Char) : cs.length < (keyChars key cs).length := by
  rw [keyChars, List.length_append, List.length_cons, List.length_cons]
  omega

/-- The blank behind a colon is skipped up to the start of the value. -/
theorem skipSpace_blank_value (hcs : StartsValue cs) : skipSpace (' ' :: cs) = cs :=
  skipSpace_gap_value isGap_blank hcs

/-- A mapping ends behind its last entry. -/
theorem readEntries_last (hcs : StartsValue cs) (hgap : IsGap gap)
    (h : readValue fuel depth cs = .ok (value, gap ++ '\x7d' :: rest)) :
    readEntries (fuel + 1) depth done (keyChars key cs) =
      .ok (.mapping (Entries.put (.text key) value done), rest) := by
  have hskip : skipSpace (gap ++ '\x7d' :: rest) = '\x7d' :: rest := skipSpace_gap hgap _
  simp only [keyChars_eq, readEntries, readText_text, skipSpace_colon, skipSpace_blank_value hcs, h,
    hskip, Scalar.ofWording]

/-- Behind a comma the next entry is read. -/
theorem readEntries_next (hcs : StartsValue cs) (hgap : IsGap gap) (hmore : StartsValue more)
    (h : readValue fuel depth cs = .ok (value, ',' :: (gap ++ more))) :
    readEntries (fuel + 1) depth done (keyChars key cs) =
      readEntries fuel depth (Entries.put (.text key) value done) more := by
  simp only [keyChars_eq, readEntries, readText_text, skipSpace_colon, skipSpace_blank_value hcs, h,
    skipSpace_comma, skipSpace_gap_value hgap hmore, Scalar.ofWording]

/-- A value that is refused stops the reading of a mapping. -/
theorem readEntries_stop {stop : Stop} (hcs : StartsValue cs)
    (h : readValue fuel depth cs = .error stop) :
    readEntries (fuel + 1) depth done (keyChars key cs) = .error stop := by
  simp only [keyChars_eq, readEntries, readText_text, skipSpace_colon, skipSpace_blank_value hcs, h]

/-- A value starts with a key, as it would start with any text. -/
theorem startsValue_keyChars (key : String) (cs : List Char) : StartsValue (keyChars key cs) := by
  rw [keyChars, toList_quoted]
  exact ⟨'"', rfl, Or.inl (by decide)⟩

end Entries

/-! ## Brackets -/

/-- Behind an opening bracket the items are read. -/
theorem readValue_list (hgap : IsGap gap) (hcs : StartsValue cs) :
    readValue (fuel + 1) (depth + 1) ('[' :: (gap ++ cs)) = readItems fuel depth [] cs := by
  rw [readValue, skipSpace_gap_value hgap hcs]
  split
  · exact absurd rfl hcs.spec.2.1
  · rfl

/-- Behind an opening brace the entries are read. -/
theorem readValue_mapping (hgap : IsGap gap) (hcs : StartsValue cs) :
    readValue (fuel + 1) (depth + 1) ('\x7b' :: (gap ++ cs)) = readEntries fuel depth [] cs := by
  rw [readValue, skipSpace_gap_value hgap hcs]
  split
  · exact absurd rfl hcs.spec.2.2.1
  · rfl

/-! ## Whole documents -/

/-- A document is what is read from its start, if nothing but spaces follows. -/
theorem readDocument_of_readValue {value : Value} (hcs : StartsValue cs) (hgap : IsGap gap)
    (h : readValue (2 * cs.length + 2) depth cs = .ok (value, gap)) :
    readDocument depth cs = .ok value := by
  obtain ⟨hskip, -, -, hmark⟩ := hcs.spec
  have hend : skipSpace gap = [] := by
    rw [← List.append_nil gap, skipSpace_gap hgap]
    rfl
  simp only [readDocument, if_neg hmark, hskip, h, hend]

/-- A document is refused with the value at its start. -/
theorem readDocument_of_readValue_error {stop : Stop} (hcs : StartsValue cs)
    (h : readValue (2 * cs.length + 2) depth cs = .error stop) :
    readDocument depth cs = .error stop := by
  obtain ⟨hskip, -, -, hmark⟩ := hcs.spec
  simp only [readDocument, if_neg hmark, hskip, h]

end DistrictAtlas.Json
