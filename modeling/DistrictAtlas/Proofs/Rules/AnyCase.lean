import Mathlib.Data.List.Forall2
import DistrictAtlas.Proofs.Rules.OwnTokens
import DistrictAtlas.Proofs.Rules.TokenTexts
import DistrictAtlas.Report.Description

/-!
# Case makes no difference

Rows whose cells of tokens are the same in upper case make the same rulebook, with the same notices,
since a row is taken by the texts of its tokens alone. And a code is looked up in upper case, so it is
answered alike however it is written.
-/

namespace DistrictAtlas

/-- The rows are the same but for their cells of tokens, and these are the same in upper case. -/
structure Record.SameButCase (first second : Record) : Prop where
  /-- All other cells are the same. -/
  sameCells : ∀ field, field ≠ .tokens → first.get field = second.get field
  /-- The cells of tokens are the same in upper case. -/
  sameTokens : Text.upper first.tokens = Text.upper second.tokens

/-- One such row is the other with another cell of tokens that lists the same texts. -/
theorem Record.SameButCase.exists_eq {first second : Record} (h : first.SameButCase second) :
    ∃ cell, second = { first with tokens := cell } ∧
      Token.texts cell = Token.texts first.tokens := by
  refine ⟨second.tokens, ?_, (Token.texts_congr h.sameTokens).symm⟩
  have hid : first.id = second.id := h.sameCells .id (by decide)
  have hregion : first.region = second.region := h.sameCells .region (by decide)
  have hpopulation : first.population = second.population := h.sameCells .population (by decide)
  have hbusinesses : first.businesses = second.businesses := h.sameCells .businesses (by decide)
  have hincome : first.income = second.income := h.sameCells .income (by decide)
  have hstatus : first.status = second.status := h.sameCells .status (by decide)
  rw [hid, hregion, hpopulation, hbusinesses, hincome, hstatus]

/-- A row is taken by the texts of its tokens alone. -/
theorem Draft.addRow_of_sameButCase (palette : Palette) (draft : Draft) (row : Nat)
    {first second : Record} (h : first.SameButCase second) :
    addRow palette draft row first = addRow palette draft row second := by
  obtain ⟨cell, rfl, htexts⟩ := h.exists_eq
  have hlisted : Token.listed cell = Token.listed first.tokens :=
    congrArg (List.map Token.read) htexts
  have hterritory : ∀ color, Territory.ofRecord color { first with tokens := cell } =
      Territory.ofRecord color first := by
    intro color
    unfold Territory.ofRecord
    rw [hlisted]
  have hvoid : ∀ id, voidNotices row id cell = voidNotices row id first.tokens := by
    intro id
    unfold voidNotices
    rw [htexts]
  unfold addRow rowNotices
  dsimp only
  rw [hterritory, hvoid]

/-- Rows that differ in the case of their tokens alone add the same to a draft. -/
theorem Draft.addRows_of_sameButCase (palette : Palette) {first second : List Record}
    (h : List.Forall₂ Record.SameButCase first second) (draft : Draft) (row : Nat) :
    addRows palette draft row first = addRows palette draft row second := by
  induction h generalizing draft row with
  | nil => rfl
  | cons hrecord _ ih =>
    rw [addRows, addRows, addRow_of_sameButCase palette draft row hrecord]
    exact ih _ _

namespace Rulebook

/-- Rows that differ in the case of their tokens alone make the same rulebook, and it says the same of
two codes that are the same in upper case: who owns them, whether they are taken, and what there is
to say about them. -/
theorem any_case_answers_alike (palette : Palette) {first second : List Record}
    (hrows : List.Forall₂ Record.SameButCase first second) {code other : String}
    (hcode : Text.upper code = Text.upper other) :
    ofRecords palette first = ofRecords palette second ∧
      (ofRecords palette first).owner? code = (ofRecords palette second).owner? other ∧
      (ofRecords palette first).isTaken code = (ofRecords palette second).isTaken other ∧
      ∀ number, (ofRecords palette first).describe code number =
        (ofRecords palette second).describe other number := by
  have hbook : ofRecords palette first = ofRecords palette second := by
    unfold ofRecords
    rw [Draft.addRows_of_sameButCase palette hrows]
  have howner : ∀ book : Rulebook, book.owner? code = book.owner? other := by
    intro book
    rw [owner?, hcode, owner?]
  have hterritory : ∀ book : Rulebook, book.ownerTerritory? code = book.ownerTerritory? other := by
    intro book
    rw [ownerTerritory?, howner, ownerTerritory?]
  refine ⟨hbook, ?_, ?_, fun number => ?_⟩
  · rw [hbook, howner]
  · rw [hbook, isTaken, hterritory, isTaken]
  · rw [hbook, describe, hcode, describe]

/-- Rows whose tokens are in small letters, one with a letter that becomes two in upper case and one
with a ligature. -/
def smallRows : List Record :=
  [{ id := "T1", tokens := "straße+|*" }, { id := "T2", status := "taken", tokens := " w1 ;ﬁ2*" }]

/-- The same rows with their tokens in capitals. -/
def capitalRows : List Record :=
  [{ id := "T1", tokens := "STRASSE+|*" }, { id := "T2", status := "taken", tokens := " W1 ;FI2*" }]

/-- These rows differ in the case of their tokens alone. -/
theorem smallRows_sameButCase : List.Forall₂ Record.SameButCase smallRows capitalRows := by
  have hfirst : Text.upper "straße+|*" = Text.upper "STRASSE+|*" := by decide +kernel
  have hsecond : Text.upper " w1 ;ﬁ2*" = Text.upper " W1 ;FI2*" := by decide +kernel
  refine .cons ⟨?_, hfirst⟩ (.cons ⟨?_, hsecond⟩ .nil)
  · intro field hfield
    cases field <;> first | rfl | exact absurd rfl hfield
  · intro field hfield
    cases field <;> first | rfl | exact absurd rfl hfield

/-- A code that is longer in upper case belongs to the taken territory, whichever rows and whichever
spelling of it are taken. -/
theorem smallRows_answer_alike :
    List.Forall₂ Record.SameButCase smallRows capitalRows ∧
      Text.upper "ﬁ2x" = Text.upper "FI2x" ∧
      (ofRecords onePalette smallRows).owner? "ﬁ2x" = some "T2" ∧
      (ofRecords onePalette capitalRows).owner? "FI2x" = some "T2" ∧
      (ofRecords onePalette capitalRows).isTaken "FI2x" = true := by
  have hcode : Text.upper "ﬁ2x" = Text.upper "FI2x" := by decide +kernel
  have howner : (ofRecords onePalette smallRows).owner? "ﬁ2x" = some "T2" := by decide +kernel
  have htaken : (ofRecords onePalette smallRows).isTaken "ﬁ2x" = true := by decide +kernel
  obtain ⟨-, hsameOwner, hsameTaken, -⟩ :=
    any_case_answers_alike onePalette smallRows_sameButCase hcode
  exact ⟨smallRows_sameButCase, hcode, howner, hsameOwner.symm.trans howner,
    hsameTaken.symm.trans htaken⟩

end Rulebook

end DistrictAtlas
