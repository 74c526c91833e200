import DistrictAtlas.Proofs.Rules.Coherence
import DistrictAtlas.Proofs.Style.Tiers
import DistrictAtlas.Proofs.Text.Tidying
import DistrictAtlas.Report.Classification

/-!
# Classified codes and the painted map

A list of classified codes states colors and opacities that are found apart from the painted trees,
and the two treat a missing territory and an empty color differently. In a coherent rulebook whose
territories all have a color neither occurs, so the list states what the trees give. A rulebook made
of rows is of this kind as soon as no color of the palette is empty.
-/

namespace DistrictAtlas.Rulebook

variable {book : Rulebook} {theme : Theme}

/-- The classified codes are those that are not blank, trimmed and in upper case, in their order. -/
theorem map_code_classify (book : Rulebook) (theme : Theme) (codes : List String) :
    (book.classify theme codes).map (·.code) =
      (codes.filter (!Text.isBlankText ·)).map fun code => Text.upper (Text.trim code) := by
  have hkept : ((fun code : String => !code.isEmpty) ∘ fun code => Text.upper (Text.trim code)) =
      (!Text.isBlankText ·) := by
    funext code
    rw [Function.comp_apply, Text.isEmpty_upper_trim]
  have hcode : (fun row : Classified => row.code) ∘ book.classifyOne theme = id := rfl
  unfold classify
  dsimp only
  rw [List.map_map, hcode, List.map_id, List.filter_map, hkept]

/-- Every row of the list is what the map makes of the code of the row. -/
theorem eq_classifyOne_of_mem_classify {codes : List String} {row : Classified}
    (h : row ∈ book.classify theme codes) : row = book.classifyOne theme row.code := by
  obtain ⟨code, -, rfl⟩ := List.mem_map.mp h
  rfl

/-- Whether a code is classified as taken is the answer of the lookup. -/
theorem taken_classifyOne (book : Rulebook) (theme : Theme) (code : String) :
    (book.classifyOne theme code).taken = book.isTaken code := rfl

/-- The opacity of a classified code is the value of the tree of opacities, for every rulebook. -/
theorem eval_opacityTree_classifyOne (book : Rulebook) (theme : Theme) (code : String) :
    (book.opacityTree theme).eval code = .ok (.real (book.classifyOne theme code).opacity) :=
  eval_opacityTree book theme code

/-- The color of a classified code is the value of the tree of colors, when the rulebook is coherent
and its territories have colors. -/
theorem eval_colorTree_classifyOne (hbook : book.IsCoherent)
    (hcolor : ∀ id territory, book.territory? id = some territory → territory.color ≠ "")
    (theme : Theme) (code : String) :
    (book.colorTree theme).eval code = .ok (.text (book.classifyOne theme code).color) := by
  unfold colorTree classifyOne
  rw [eval_tiers]
  cases howner : book.owner? code with
  | none => rfl
  | some id =>
    obtain ⟨territory, hfound, -⟩ := hbook.declares_owner howner
    have hsome : territory.color.isEmpty = false :=
      Bool.eq_false_iff.mpr fun he => hcolor id territory hfound (String.isEmpty_iff.mp he)
    dsimp only
    rw [Tree.eval_constant, Option.bind_some, colorOf, hfound]
    dsimp only
    rw [hsome, if_neg Bool.false_ne_true, Option.elim_some]

/-- The list of classified codes has one row for each code that is not blank, in order, and every
row states the owner of its code, whether this is taken, and the color and opacity that the painted
trees give to it. -/
theorem classify_agrees_with_trees {palette : Palette}
    (hpalette : ∀ color ∈ palette.colors, color ≠ "") (records : List Record) (theme : Theme)
    (codes : List String) :
    ((ofRecords palette records).classify theme codes).map (·.code) =
        (codes.filter (!Text.isBlankText ·)).map (fun code => Text.upper (Text.trim code)) ∧
      ∀ row ∈ (ofRecords palette records).classify theme codes,
        row.territory = (ofRecords palette records).owner? row.code ∧
        row.taken = (ofRecords palette records).isTaken row.code ∧
        ((ofRecords palette records).colorTree theme).eval row.code = .ok (.text row.color) ∧
        ((ofRecords palette records).opacityTree theme).eval row.code = .ok (.real row.opacity) := by
  refine ⟨map_code_classify _ theme codes, fun row hrow => ?_⟩
  have hcolor : ∀ id territory, (ofRecords palette records).territory? id = some territory →
      territory.color ≠ "" :=
    fun _ territory hfound => hpalette territory.color (color_mem_of_territory? hfound)
  have hcolors :=
    eval_colorTree_classifyOne (isCoherent_ofRecords palette records) hcolor theme row.code
  have hopacities := eval_opacityTree_classifyOne (ofRecords palette records) theme row.code
  rw [← eq_classifyOne_of_mem_classify hrow] at hcolors hopacities
  have hterritory := congrArg Classified.territory (eq_classifyOne_of_mem_classify hrow)
  have htaken := congrArg Classified.taken (eq_classifyOne_of_mem_classify hrow)
  exact ⟨hterritory, htaken.trans (taken_classifyOne _ theme row.code), hcolors, hopacities⟩

/-- A palette of two colors. -/
def samplePalette : Palette := ⟨["#4e79a7", "#f28e2b"], List.cons_ne_nil _ _⟩

/-- Rows with overlapping claims, one of them to a code that is longer in upper case, and a row
without an id. -/
def sampleRecords : List Record :=
  [{ id := "T1", tokens := "W1+|ß2", status := "taken" }, { id := "T2", tokens := "w1a;" },
    { tokens := "EC1" }]

/-- Of five codes one is blank, and the rows of the others are what the trees give. -/
theorem classify_agrees_with_sampleTrees :
    (∀ color ∈ samplePalette.colors, color ≠ "") ∧
      ((ofRecords samplePalette sampleRecords).classify {} [" w1b ", "\t ", "W1a", "ß2", "ec1"]).map
        (·.code) = ["W1B", "W1A", "SS2", "EC1"] ∧
      ∀ row ∈ (ofRecords samplePalette sampleRecords).classify {}
          [" w1b ", "\t ", "W1a", "ß2", "ec1"],
        row.territory = (ofRecords samplePalette sampleRecords).owner? row.code ∧
        row.taken = (ofRecords samplePalette sampleRecords).isTaken row.code ∧
        ((ofRecords samplePalette sampleRecords).colorTree {}).eval row.code = .ok (.text row.color) ∧
        ((ofRecords samplePalette sampleRecords).opacityTree {}).eval row.code =
          .ok (.real row.opacity) := by
  have hpalette : ∀ color ∈ samplePalette.colors, color ≠ "" := by decide
  obtain ⟨hcodes, hrows⟩ := classify_agrees_with_trees hpalette sampleRecords {}
    [" w1b ", "\t ", "W1a", "ß2", "ec1"]
  exact ⟨hpalette, hcodes.trans (by decide +kernel), hrows⟩

end DistrictAtlas.Rulebook
