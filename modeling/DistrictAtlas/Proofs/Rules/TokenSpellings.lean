import Mathlib.Data.List.Forall2
import DistrictAtlas.Proofs.Rules.TokenTexts
import DistrictAtlas.Proofs.Text.Joining
import DistrictAtlas.Proofs.Text.LowerCase

/-!
# Tokens as they are written

A cell can spell its tokens in many ways: with small letters, with blanks around them, and with blank
parts among them. What it is taken apart into has one form only. Such a text is read as a token that
keeps it, with the code in front and the mark behind. And the other way round, texts of this form come
back from every cell that spells them, whichever separator joins its parts.
-/

namespace DistrictAtlas

namespace Text

/-- A character becomes the same in upper case if it is made small first by the rule for ASCII. -/
theorem upperChar_toLower (c : Char) : upperChar c.toLower = upperChar c := by
  by_cases hc : c.toNat < 0x80
  · exact of_ascii (p := fun c => upperChar c.toLower = upperChar c) (by decide) hc
  · rw [toLower_of_not_ascii hc]

/-- The second characters are the first ones, but some letters of ASCII may be small. -/
def SomeSmall (cs ds : List Char) : Prop :=
  List.Forall₂ (fun c d => d = c ∨ d = c.toLower) cs ds

instance (cs ds : List Char) : Decidable (SomeSmall cs ds) :=
  inferInstanceAs (Decidable (List.Forall₂ (fun c d => d = c ∨ d = c.toLower) cs ds))

/-- In upper case nothing is left of small letters. -/
theorem SomeSmall.upperChars_eq {cs ds : List Char} (h : SomeSmall cs ds) :
    upperChars ds = upperChars cs := by
  induction h with
  | nil => rfl
  | cons hc _ ih =>
    rw [upperChars_cons, upperChars_cons, ih]
    rcases hc with rfl | rfl
    · rfl
    · rw [upperChar_toLower]

end Text

namespace Token

/-- The text is in the form in which texts of tokens are kept. -/
structure IsTidy (text : String) : Prop where
  /-- It is not empty. -/
  nonempty : text ≠ ""
  /-- No blanks stand at its ends. -/
  trimmed : Text.trim text = text
  /-- It is in upper case. -/
  upper : Text.upper text = text

instance (text : String) : Decidable (IsTidy text) :=
  decidable_of_iff (text ≠ "" ∧ Text.trim text = text ∧ Text.upper text = text)
    ⟨fun h => ⟨h.1, h.2.1, h.2.2⟩, fun h => ⟨h.nonempty, h.trimmed, h.upper⟩⟩

/-- What is brought into this form is in it, if something is left. -/
theorem isTidy_ofList_tidy {cs : List Char} (h : tidy cs ≠ []) : IsTidy (String.ofList (tidy cs)) where
  nonempty := fun hnone => h (String.ofList_eq_empty_iff.mp hnone)
  trimmed := by
    rw [Text.trim, String.toList_ofList, tidy, Text.trimChars_upperChars, Text.trimChars_trimChars]
  upper := by
    have hfinal : ∀ c ∈ tidy cs, Text.IsUpper c := fun _ => Text.isUpper_of_mem_upperChars
    rw [Text.upper, String.toList_ofList, Text.upperChars_eq_self hfinal]

/-- The form changes nothing in a text that has it. -/
theorem IsTidy.tidy_toList {text : String} (h : IsTidy text) : tidy text.toList = text.toList := by
  rw [tidy, ← Text.toList_trim, h.trimmed, ← Text.toList_upper, h.upper]

/-- The texts of the tokens in a cell have this form. -/
theorem isTidy_of_mem_texts {cell text : String} (h : text ∈ texts cell) : IsTidy text := by
  obtain ⟨hnonempty, htidy⟩ := tidy_of_mem_texts h
  rw [← htidy] at hnonempty
  have hform := isTidy_ofList_tidy hnonempty
  rwa [htidy, String.ofList_toList] at hform

/-- The kind of a token is told by its last character, which is then the mark of this kind. -/
theorem kindOfLast_cases (last : Option Char) :
    kindOfLast last = .exact ∨ (kindOfLast last ≠ .exact ∧
      ∃ mark, last = some mark ∧ (kindOfLast last).mark = [mark]) := by
  unfold kindOfLast
  split
  · exact Or.inr ⟨TokenKind.noConfusion, '+', rfl, rfl⟩
  · exact Or.inr ⟨TokenKind.noConfusion, '*', rfl, rfl⟩
  · exact Or.inl rfl

/-- A token is shown as its code with the mark of its kind behind. -/
theorem text_read_eq (text : String) :
    (read text).text = (read text).code ++ String.ofList (read text).kind.mark := by
  unfold read
  dsimp only
  rw [← String.ofList_append, String.ofList_inj]
  rcases kindOfLast_cases (tidy text.toList).getLast? with hexact | ⟨hother, mark, hlast, hmark⟩
  · rw [hexact, if_pos rfl]
    exact (List.append_nil _).symm
  · rw [if_neg hother, hmark]
    exact (List.dropLast_append_getLast? mark hlast).symm

/-- A text in this form is kept by the token that is read from it. -/
theorem IsTidy.text_read {text : String} (h : IsTidy text) : (read text).text = text := by
  unfold read
  dsimp only
  rw [h.tidy_toList, String.ofList_toList]

/-- The part of a cell writes the text: with blanks around it, and some of its letters of ASCII may be
small. -/
def Writes (part text : String) : Prop :=
  ∃ front middle back, part.toList = front ++ middle ++ back ∧
    (∀ c ∈ front, Text.isBlank c = true) ∧ Text.SomeSmall text.toList middle ∧
      ∀ c ∈ back, Text.isBlank c = true

/-- The parts of a cell spell the texts: each of them writes the next text or is blank. -/
inductive Spells : List String → List String → Prop
  /-- No parts spell no texts. -/
  | nil : Spells [] []
  /-- A blank part adds nothing. -/
  | blank {part : String} {parts listed : List String} :
      Text.isBlankText part = true → Spells parts listed → Spells (part :: parts) listed
  /-- A part that writes a text adds this text. -/
  | text {part text : String} {parts listed : List String} :
      Writes part text → Spells parts listed → Spells (part :: parts) (text :: listed)

/-- A part that writes a text is brought back to it. -/
theorem Writes.tidy_toList {part text : String} (h : Writes part text) (htext : IsTidy text) :
    tidy part.toList = text.toList := by
  obtain ⟨front, middle, back, hpart, hfront, hmiddle, hback⟩ := h
  calc tidy part.toList
      = tidy middle := by rw [hpart, tidy, Text.trimChars_padded hfront middle hback, tidy]
    _ = tidy (Text.upperChars middle) := (tidy_upperChars middle).symm
    _ = tidy text.toList := by rw [hmiddle.upperChars_eq, tidy_upperChars]
    _ = text.toList := htext.tidy_toList

/-- Nothing is left of a blank part. -/
theorem tidy_of_isBlankText {part : String} (h : Text.isBlankText part = true) :
    tidy part.toList = [] := by
  rw [tidy, (Text.trimChars_eq_nil_iff part.toList).mpr h, Text.upperChars_nil]

/-- What is left of the parts of a cell, in the form of tokens, are the texts that they spell. -/
theorem Spells.tidy_parts {parts listed : List String} (h : Spells parts listed)
    (hlisted : ∀ text ∈ listed, IsTidy text) :
    (((parts.map String.toList).map tidy).filter fun part => !part.isEmpty).map String.ofList =
      listed := by
  induction h with
  | nil => rfl
  | blank hpart _ ih =>
    rw [List.map_cons, List.map_cons, tidy_of_isBlankText hpart, List.filter_cons_of_neg (by decide),
      ih hlisted]
  | @text part text _ _ hpart _ ih =>
    obtain ⟨htext, hrest⟩ := List.forall_mem_cons.mp hlisted
    have hnonempty : (!text.toList.isEmpty) = true := by
      rw [Bool.not_eq_true', List.isEmpty_eq_false_iff]
      exact mt String.toList_eq_nil_iff.mp htext.nonempty
    rw [List.map_cons, List.map_cons, hpart.tidy_toList htext, List.filter_cons, if_pos hnonempty,
      List.map_cons, String.ofList_toList, ih hrest]

/-- A separator that stands in none of the texts stands in none of the parts that spell them. -/
theorem Spells.not_mem_parts {parts listed : List String} (h : Spells parts listed) {separator : Char}
    (hneutral : Text.isNeutral separator = true) (hblank : Text.isBlank separator = false)
    (hlisted : ∀ text ∈ listed, separator ∉ text.toList) :
    ∀ part ∈ parts, separator ∉ part.toList := by
  have hnone : ∀ {cs : List Char}, (∀ c ∈ cs, Text.isBlank c = true) → separator ∉ cs := by
    intro cs hcs hmem
    rw [hcs separator hmem] at hblank
    cases hblank
  induction h with
  | nil => exact List.forall_mem_nil _
  | blank hpart _ ih =>
    exact List.forall_mem_cons.mpr ⟨hnone (List.all_eq_true.mp hpart), ih hlisted⟩
  | text hpart _ ih =>
    obtain ⟨htext, hrest⟩ := List.forall_mem_cons.mp hlisted
    obtain ⟨front, middle, back, hpart, hfront, hmiddle, hback⟩ := hpart
    refine List.forall_mem_cons.mpr ⟨?_, ih hrest⟩
    -- upper-casing neither takes the separator away nor brings it in
    rw [hpart, List.mem_append, List.mem_append, ← Text.mem_upperChars_iff hneutral middle,
      hmiddle.upperChars_eq, Text.mem_upperChars_iff hneutral, or_assoc, not_or, not_or]
    exact ⟨hnone hfront, htext, hnone hback⟩

/-- Without a semicolon the bar separates. -/
theorem separator_of_not_mem {cell : List Char} (h : ';' ∉ cell) : separator cell = '|' := by
  rw [separator, List.contains_eq_mem, decide_eq_false h, Bool.false_and, if_neg Bool.false_ne_true]

/-- With a semicolon and without a bar the semicolon separates. -/
theorem separator_of_mem {cell : List Char} (h : ';' ∈ cell) (hbar : '|' ∉ cell) :
    separator cell = ';' := by
  rw [separator, List.contains_eq_mem, List.contains_eq_mem, decide_eq_true h, decide_eq_false hbar]
  rfl

section Joined

variable {parts : List String} {mark : Char}

/-- Parts joined with a mark that none of them holds come back when they are cut there. -/
theorem splitChars_joined (hne : parts ≠ []) (hfree : ∀ part ∈ parts, mark ∉ part.toList) :
    Text.splitChars mark (String.intercalate (String.singleton mark) parts).toList =
      parts.map String.toList := by
  rw [String.toList_intercalate, String.toList_singleton]
  refine Text.splitChars_intercalate (mt List.map_eq_nil_iff.mp hne) fun part hpart => ?_
  obtain ⟨text, htext, rfl⟩ := List.mem_map.mp hpart
  exact hfree text htext

/-- A character that stands in none of the parts does not stand in the parts joined with another. -/
theorem not_mem_joined {c : Char} (hmark : c ≠ mark) (hfree : ∀ part ∈ parts, c ∉ part.toList) :
    c ∉ (String.intercalate (String.singleton mark) parts).toList := by
  intro hmem
  rcases Text.mem_intercalate hmem with hsame | ⟨part, hpart, hinside⟩
  · rw [String.toList_singleton, List.mem_singleton] at hsame
    exact hmark hsame
  · exact hfree part hpart hinside

/-- A cell is cut into its parts when these were joined with one of the separators and hold none. -/
theorem splitChars_separator_joined (hne : parts ≠ []) (hmark : mark = '|' ∨ mark = ';')
    (hbar : ∀ part ∈ parts, '|' ∉ part.toList) (hsemicolon : ∀ part ∈ parts, ';' ∉ part.toList) :
    Text.splitChars (separator (String.intercalate (String.singleton mark) parts).toList)
        (String.intercalate (String.singleton mark) parts).toList =
      parts.map String.toList := by
  rcases hmark with rfl | rfl
  · rw [separator_of_not_mem (not_mem_joined (by decide) hsemicolon)]
    exact splitChars_joined hne hbar
  · have hnone : '|' ∉ (String.intercalate (String.singleton ';') parts).toList :=
      not_mem_joined (by decide) hbar
    have hcut := splitChars_joined hne hsemicolon
    by_cases hmem : ';' ∈ (String.intercalate (String.singleton ';') parts).toList
    · rw [separator_of_mem hmem hnone]
      exact hcut
    · -- there is a single part, and it is not cut by the bar either
      rw [separator_of_not_mem hmem, Text.splitChars_of_not_mem hnone,
        ← Text.splitChars_of_not_mem hmem]
      exact hcut

end Joined

/-- Texts without separators come back from every cell that spells them. -/
theorem Spells.texts_joined {parts listed : List String} (h : Spells parts listed) {mark : Char}
    (hmark : mark = '|' ∨ mark = ';') (hlisted : ∀ text ∈ listed, IsTidy text)
    (hbar : ∀ text ∈ listed, '|' ∉ text.toList) (hsemicolon : ∀ text ∈ listed, ';' ∉ text.toList) :
    texts (String.intercalate (String.singleton mark) parts) = listed := by
  by_cases hne : parts = []
  · subst hne
    cases h
    rcases hmark with rfl | rfl
    · rfl
    · rfl
  · unfold texts
    dsimp only
    rw [splitChars_separator_joined hne hmark (h.not_mem_parts (by decide) (by decide) hbar)
      (h.not_mem_parts (by decide) (by decide) hsemicolon)]
    exact h.tidy_parts hlisted

/-- The texts in a cell are not empty, trimmed and in upper case. Each is read as a token that keeps it
as its text, which is the code with the mark behind, and the text of this token is read as the same
token. And texts of this form without separators are those in the cell, whenever they are written with
some letters of ASCII small and with blanks around them, with blank parts among them, and joined with
bars or with semicolons. -/
theorem texts_settled_and_read_back :
    (∀ cell, ∀ text ∈ texts cell, IsTidy text ∧ (read text).text = text ∧
      text = (read text).code ++ String.ofList (read text).kind.mark ∧
      read (read text).text = read text) ∧
    ∀ listed parts mark, (∀ text ∈ listed, IsTidy text ∧ '|' ∉ text.toList ∧ ';' ∉ text.toList) →
      Spells parts listed → (mark = '|' ∨ mark = ';') →
        texts (String.intercalate (String.singleton mark) parts) = listed := by
  constructor
  · intro cell text htext
    have htidy := isTidy_of_mem_texts htext
    have hkept := htidy.text_read
    have hform := text_read_eq text
    rw [hkept] at hform
    exact ⟨htidy, hkept, hform, congrArg read hkept⟩
  · intro listed parts mark hlisted hspells hmark
    exact hspells.texts_joined hmark (fun text htext => (hlisted text htext).1)
      (fun text htext => (hlisted text htext).2.1) fun text htext => (hlisted text htext).2.2

/-- Texts of tokens of all kinds, one of them not in ASCII. -/
def sampleListed : List String := ["W1+", "SE22", "É*"]

/-- Parts that spell them. -/
def sampleParts : List String := ["\tw1+ ", "", " Se22", "\u2003", "É*"]

/-- They do. -/
theorem spells_sampleParts : Spells sampleParts sampleListed := by
  have hfirst : Writes "\tw1+ " "W1+" := ⟨['\t'], ['w', '1', '+'], [' '], rfl,
    List.all_eq_true.mp rfl, by decide, List.all_eq_true.mp rfl⟩
  have hsecond : Writes " Se22" "SE22" := ⟨[' '], ['S', 'e', '2', '2'], [], rfl,
    List.all_eq_true.mp rfl, by decide, List.forall_mem_nil _⟩
  have hthird : Writes "É*" "É*" := ⟨[], ['É', '*'], [], rfl, List.forall_mem_nil _, by decide,
    List.forall_mem_nil _⟩
  exact .text hfirst (.blank rfl (.text hsecond (.blank (by decide +kernel) (.text hthird .nil))))

/-- The texts come back from the cell in which semicolons join the parts, and one of them is read as a
token with the code in front of its mark. -/
theorem sampleParts_read_back :
    (∀ text ∈ sampleListed, IsTidy text ∧ '|' ∉ text.toList ∧ ';' ∉ text.toList) ∧
      Spells sampleParts sampleListed ∧
      texts (String.intercalate (String.singleton ';') sampleParts) = sampleListed ∧
      (read "W1+").text = "W1+" ∧ "W1+" = (read "W1+").code ++ String.ofList ['+'] := by
  obtain ⟨hread, hback⟩ := texts_settled_and_read_back
  have hlisted : ∀ text ∈ sampleListed, IsTidy text ∧ '|' ∉ text.toList ∧ ';' ∉ text.toList := by
    decide +kernel
  have htexts := hback sampleListed sampleParts ';' hlisted spells_sampleParts (Or.inr rfl)
  have hmem : "W1+" ∈ texts (String.intercalate (String.singleton ';') sampleParts) := by
    rw [htexts]
    exact List.mem_cons_self
  obtain ⟨-, hkept, hform, -⟩ := hread _ "W1+" hmem
  have hkind : (read "W1+").kind = .letter := by decide +kernel
  rw [hkind] at hform
  exact ⟨hlisted, spells_sampleParts, htexts, hkept, hform⟩

end Token

end DistrictAtlas
