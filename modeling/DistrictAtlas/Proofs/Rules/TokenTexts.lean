import DistrictAtlas.Proofs.Text.Caseless
import DistrictAtlas.Rules.Token

/-!
# The texts of tokens

The tokens of a cell are those of the cell in upper case, since neither the cuts nor the blanks of a
cell are touched by upper-casing. The texts that a cell is taken apart into are in the form of
tokens already, so a token is void exactly if it is listed as nothing but a mark.
-/

namespace DistrictAtlas.Token

/-- Bringing characters into the form of a token does what upper-casing them first would do. -/
theorem tidy_upperChars (cs : List Char) : tidy (Text.upperChars cs) = tidy cs := by
  have hfinal : ∀ c ∈ tidy cs, Text.IsUpper c := fun _ => Text.isUpper_of_mem_upperChars
  calc tidy (Text.upperChars cs)
      = Text.upperChars (tidy cs) := congrArg Text.upperChars (Text.trimChars_upperChars cs)
    _ = tidy cs := Text.upperChars_eq_self hfinal

/-- What is in the form of a token stays as it is. -/
theorem tidy_tidy (cs : List Char) : tidy (tidy cs) = tidy cs := by
  have htrimmed : tidy (Text.trimChars cs) = tidy cs :=
    congrArg Text.upperChars (Text.trimChars_trimChars cs)
  exact (tidy_upperChars (Text.trimChars cs)).trans htrimmed

/-- The separators are neutral. -/
theorem isNeutral_separator (cell : List Char) : Text.isNeutral (separator cell) = true := by
  unfold separator
  split
  · decide
  · decide

/-- A cell has the same separator in upper case. -/
theorem separator_upperChars (cell : List Char) :
    separator (Text.upperChars cell) = separator cell := by
  have hsemicolon := Text.mem_upperChars_iff (d := ';') (by decide) cell
  have hbar := Text.mem_upperChars_iff (d := '|') (by decide) cell
  rw [← List.contains_iff_mem, ← List.contains_iff_mem, ← Bool.eq_iff_iff] at hsemicolon hbar
  unfold separator
  rw [hsemicolon, hbar]

/-- The texts of the tokens in a cell are those in the cell in upper case. -/
theorem texts_upper (cell : String) : texts (Text.upper cell) = texts cell := by
  have htidy : tidy ∘ Text.upperChars = tidy := funext tidy_upperChars
  unfold texts
  dsimp only
  rw [Text.toList_upper, separator_upperChars,
    Text.splitChars_upperChars (isNeutral_separator cell.toList), List.map_map, htidy]

/-- Cells that are the same in upper case have the same tokens. -/
theorem texts_congr {first second : String} (h : Text.upper first = Text.upper second) :
    texts first = texts second := by
  rw [← texts_upper first, h, texts_upper second]

/-- The parts between the separators of a cell. -/
def partsOf (cell : String) : List (List Char) :=
  Text.splitChars (separator cell.toList) cell.toList

/-- The texts in a cell are the parts of the cell in the form of tokens, without those of which nothing
is left. -/
theorem mem_texts_iff {cell text : String} :
    text ∈ texts cell ↔
      ∃ part ∈ partsOf cell, tidy part ≠ [] ∧ String.ofList (tidy part) = text := by
  unfold texts partsOf
  dsimp only
  rw [List.mem_map]
  constructor
  · rintro ⟨kept, hkept, rfl⟩
    obtain ⟨hmem, hnonempty⟩ := List.mem_filter.mp hkept
    obtain ⟨part, hpart, rfl⟩ := List.mem_map.mp hmem
    refine ⟨part, hpart, fun hnone => ?_, rfl⟩
    rw [hnone] at hnonempty
    cases hnonempty
  · rintro ⟨part, hpart, hnonempty, rfl⟩
    have hkept : (!(tidy part).isEmpty) = true := by
      rwa [Bool.not_eq_true', List.isEmpty_eq_false_iff]
    exact ⟨tidy part, List.mem_filter.mpr ⟨List.mem_map.mpr ⟨part, hpart, rfl⟩, hkept⟩, rfl⟩

/-- The form of a text is read as the same token. -/
theorem read_tidy (part : List Char) :
    read (String.ofList (tidy part)) = read (String.ofList part) := by
  unfold read
  rw [String.toList_ofList, String.toList_ofList, tidy_tidy]

/-- The text of a token in a cell is not empty, and it is in the form of a token. -/
theorem tidy_of_mem_texts {cell text : String} (h : text ∈ texts cell) :
    text.toList ≠ [] ∧ tidy text.toList = text.toList := by
  obtain ⟨part, -, hnonempty, rfl⟩ := mem_texts_iff.mp h
  rw [String.toList_ofList]
  exact ⟨hnonempty, tidy_tidy part⟩

end DistrictAtlas.Token
