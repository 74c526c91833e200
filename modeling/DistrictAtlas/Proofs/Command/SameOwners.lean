import DistrictAtlas.Proofs.Command.Delivery
import DistrictAtlas.Proofs.Outcome
import DistrictAtlas.Proofs.Report.Agreement
import DistrictAtlas.Proofs.Rules.OwnTokens

/-!
# Owners in classifications and descriptions

Classifying and describing look up the same codes, but a classification trims every code before, and
a description does not. Lines of a file of codes are trimmed when they are read, so both find the
same owners unless a code among the arguments has blanks around it that make a difference.
-/

namespace DistrictAtlas

namespace Rulebook

variable {book : Rulebook}

/-- A code has the owner that its upper case form has. -/
theorem owner?_upper (book : Rulebook) (code : String) :
    book.owner? (Text.upper code) = book.owner? code := by
  unfold owner?
  rw [Text.upper_upper]

/-- The owners in the classification of codes that are not blank are those of the trimmed codes. -/
theorem map_territory_classify (book : Rulebook) (theme : Theme) {codes : List String}
    (h : ∀ code ∈ codes, Text.isBlankText code = false) :
    (book.classify theme codes).map (·.territory) =
      codes.map fun code => book.owner? (Text.trim code) := by
  have hrows : (book.classify theme codes).map (·.territory) =
      ((book.classify theme codes).map (·.code)).map book.owner? := by
    rw [List.map_map]
    refine List.map_congr_left fun row hrow => ?_
    rw [eq_classifyOne_of_mem_classify hrow]
    rfl
  have hall : codes.filter (!Text.isBlankText ·) = codes := by
    rw [List.filter_eq_self]
    intro code hcode
    rw [h code hcode]
    rfl
  rw [hrows, map_code_classify, hall, List.map_map]
  exact List.map_congr_left fun code _ => owner?_upper book (Text.trim code)

/-- The owner in the description of a code is the owner of the code. -/
theorem territory_describe (hbook : book.IsCoherent) {code : String} {number : Int}
    {description : Description} (h : book.describe code number = .ok description) :
    description.territory = book.owner? code := by
  have howner : (book.ownerTerritory? (Text.upper code)).map (·.id) = book.owner? code := by
    rw [hbook.map_id_ownerTerritory?, owner?_upper]
  rw [← howner]
  unfold describe at h
  dsimp only at h
  cases hterritory : book.ownerTerritory? (Text.upper code) with
  | none =>
    rw [hterritory] at h
    cases h
    rfl
  | some territory =>
    rw [hterritory] at h
    obtain ⟨lines, -, hlines⟩ := Outcome.bind_eq_ok_iff.mp h
    cases hlines
    rfl

end Rulebook

namespace Scene

/-- The owners in the descriptions of codes are the owners of the codes. -/
theorem map_territory_describeAll {atlas : Atlas} (hbook : atlas.book.IsCoherent)
    {codes : List String} {descriptions : List Description}
    (h : describeAll atlas codes = .ok descriptions) :
    descriptions.map (·.territory) = codes.map atlas.book.owner? := by
  induction codes generalizing descriptions with
  | nil =>
    cases h
    rfl
  | cons code rest ih =>
    obtain ⟨description, hcode, hothers⟩ := Outcome.bind_eq_ok_iff.mp h
    obtain ⟨others, hrest, hall⟩ := Outcome.bind_eq_ok_iff.mp hothers
    cases hall
    rw [List.map_cons, List.map_cons, ih hrest, Rulebook.territory_describe hbook hcode]

/-- The codes in a file are the lines of its text, trimmed. -/
theorem codesIn_eq_ok_iff {files : Files} {path : Path} {listed : List String} :
    codesIn files path = .ok listed ↔ ∃ bytes text, files.read path = .ok bytes ∧
      Utf8.decode bytes = .ok text ∧ (Text.lines text).map Text.trim = listed := by
  unfold codesIn Source.fileText
  simp only [Outcome.bind_eq_ok_iff, Outcome.mapError_eq_ok_iff, Outcome.pure_eq_ok_iff]
  constructor
  · rintro ⟨text, ⟨bytes, hbytes, htext⟩, hlines⟩
    exact ⟨bytes, text, hbytes, htext, hlines⟩
  · rintro ⟨bytes, text, hbytes, htext, hlines⟩
    exact ⟨text, ⟨bytes, hbytes, htext⟩, hlines⟩

/-- The codes that are asked for are those among the arguments and those in a file, trimmed, without
the blank ones. -/
theorem codes_eq {scene : Scene} {arguments : Arguments} {codes : List String}
    (h : scene.codes arguments = .ok codes) :
    ∃ listed, codes = (arguments.codes ++ listed).filter (!Text.isBlankText ·) ∧
      ∀ code ∈ listed, Text.trim code = code := by
  unfold Scene.codes at h
  cases hfile : arguments.options.codesFile.text? with
  | none =>
    rw [hfile] at h
    cases h
    exact ⟨[], rfl, fun code hcode => nomatch hcode⟩
  | some file =>
    rw [hfile] at h
    obtain ⟨listed, hlisted, hcodes⟩ := Outcome.bind_eq_ok_iff.mp h
    obtain ⟨bytes, text, -, -, rfl⟩ := codesIn_eq_ok_iff.mp hlisted
    refine ⟨_, (Except.ok.inj hcodes).symm, ?_⟩
    intro code hcode
    obtain ⟨line, -, rfl⟩ := List.mem_map.mp hcode
    rw [Text.trim, Text.toList_trim, Text.trimChars_trimChars]
    rfl

/-- The codes are read from the log. -/
def ReadsLog (scene : Scene) (arguments : Arguments) : Prop :=
  ∃ file place, arguments.options.codesFile.text? = some file ∧
    scene.files.locate (Path.read file) = .ok place ∧ scene.LogsAt place

/-- What is logged makes no difference to the codes, unless they are read from the log. -/
theorem codes_of_onlyLogs {scene later : Scene} {arguments : Arguments} {codes : List String}
    (hlater : OnlyLogs scene later) (hlog : ¬scene.ReadsLog arguments)
    (h : later.codes arguments = .ok codes) : scene.codes arguments = .ok codes := by
  unfold Scene.codes at h ⊢
  cases hfile : arguments.options.codesFile.text? with
  | none =>
    rw [hfile] at h
    exact h
  | some file =>
    rw [hfile] at h
    obtain ⟨listed, hlisted, hcodes⟩ := Outcome.bind_eq_ok_iff.mp h
    obtain ⟨bytes, text, hread, htext⟩ := codesIn_eq_ok_iff.mp hlisted
    have hbefore := hlater.read (fun place hplace hat => hlog ⟨file, place, hfile, hplace, hat⟩)
      hread
    exact Outcome.bind_eq_ok_iff.mpr
      ⟨listed, codesIn_eq_ok_iff.mpr ⟨bytes, text, hbefore, htext⟩, hcodes⟩

end Scene

namespace Arguments

/-- The same question, to be answered by a classification that is put out. -/
def classifying (arguments : Arguments) : Arguments :=
  { arguments with
    command := .classify, options := { arguments.options with out := .nothing } }

/-- The same question, to be answered by descriptions. -/
def describing (arguments : Arguments) : Arguments :=
  { arguments with command := .describe }

section Variants

variable (arguments : Arguments) (scene : Scene)

/-- The log does not depend on the command and on where the answer goes. -/
theorem started?_classifying :
    arguments.classifying.started? scene = arguments.started? scene := rfl

/-- What a run loads does not depend on the command and on where the answer goes. -/
theorem atlas_classifying : scene.atlas arguments.classifying = scene.atlas arguments := rfl

/-- The log does not depend on the command. -/
theorem started?_describing :
    arguments.describing.started? scene = arguments.started? scene := rfl

/-- What a run loads does not depend on the command. -/
theorem atlas_describing : scene.atlas arguments.describing = scene.atlas arguments := rfl

end Variants

section

variable {arguments : Arguments} {scene started : Scene} {atlas : Atlas}
  (hstarted : arguments.started? scene = some started)
  (hatlas : started.atlas arguments = .ok atlas)

include hstarted hatlas

/-- A classification that does not fail puts out the rows of the codes that are asked for. -/
theorem classifying_output (hlog : ¬started.ReadsLog arguments)
    (h : (arguments.classifying.run scene).exit ≠ .failure) :
    ∃ codes text, started.codes arguments = .ok codes ∧
      Json.render (.list ((atlas.book.classify atlas.theme codes).map Classified.toValue)) =
        .ok text ∧
      (arguments.classifying.run scene).scene.output = scene.output ++ (text ++ "\n") := by
  obtain ⟨started', atlas', delivery, hdelivers⟩ := exists_delivers h
  have hstarted' := hdelivers.starts
  rw [started?_classifying, hstarted] at hstarted'
  cases hstarted'
  have hatlas' := hdelivers.loads
  rw [atlas_classifying, hatlas] at hatlas'
  cases hatlas'
  have hprepare := hdelivers.makes
  rw [Scene.prepare_classify_output rfl rfl] at hprepare
  obtain ⟨codes, hcodes, rfl⟩ := Outcome.map_eq_ok_iff.mp hprepare
  obtain ⟨hfails, houtput⟩ := hdelivers.output rfl
  have hstops := Delivery.stops_rows (atlas.book.classify atlas.theme codes)
  obtain ⟨text, hrender, hwritten⟩ := Delivery.written_document hstops
  rw [hwritten] at houtput
  exact ⟨codes, text, Scene.codes_of_onlyLogs (onlyLogs_ready _ started) hlog hcodes, hrender,
    houtput hstops⟩

/-- Descriptions that do not fail leave in the file what there is to say about the codes that are
asked for. -/
theorem describing_holds {file : String} (hout : arguments.options.out.text? = some file)
    (hlog : ¬started.ReadsLog arguments)
    (h : (arguments.describing.run scene).exit ≠ .failure) :
    ∃ codes descriptions text, started.codes arguments = .ok codes ∧
      Scene.describeAll atlas codes = .ok descriptions ∧
      Json.render (.list (descriptions.map Description.toValue)) = .ok text ∧
      (arguments.describing.run scene).scene.Holds file (text ++ "\n") := by
  have hout' : arguments.describing.options.out.text? = some file := hout
  obtain ⟨started', atlas', delivery, hdelivers⟩ := exists_delivers h
  have hstarted' := hdelivers.starts
  rw [started?_describing, hstarted] at hstarted'
  cases hstarted'
  have hatlas' := hdelivers.loads
  rw [atlas_describing, hatlas] at hatlas'
  cases hatlas'
  have hprepare := hdelivers.makes
  rw [Scene.prepare_describe_file rfl hout'] at hprepare
  obtain ⟨codes, hcodes, hall⟩ := Outcome.bind_eq_ok_iff.mp hprepare
  obtain ⟨descriptions, hdescriptions, rfl⟩ := Outcome.map_eq_ok_iff.mp hall
  obtain ⟨hstops, hholds⟩ := hdelivers.holds hout' h
  obtain ⟨text, hrender, hwritten⟩ := Delivery.written_document hstops
  rw [hwritten] at hholds
  exact ⟨codes, descriptions, text,
    Scene.codes_of_onlyLogs (onlyLogs_ready _ started) hlog hcodes,
    Outcome.mapError_eq_ok_iff.mp hdescriptions, hrender, hholds⟩

/-- When both commands succeed, the classification that is put out and the descriptions in the file
are about the same codes, one by one, and state the same owners exactly if no code among the
arguments that is not blank has another owner with blanks around it than without. -/
theorem classified_owners_eq_described_iff {file : String}
    (hout : arguments.options.out.text? = some file) (hlog : ¬started.ReadsLog arguments)
    (hclassify : (arguments.classifying.run scene).exit ≠ .failure)
    (hdescribe : (arguments.describing.run scene).exit ≠ .failure) :
    ∃ codes descriptions rowsText descriptionsText,
      started.codes arguments = .ok codes ∧
      Scene.describeAll atlas codes = .ok descriptions ∧
      Json.render (.list ((atlas.book.classify atlas.theme codes).map Classified.toValue)) =
        .ok rowsText ∧
      (arguments.classifying.run scene).scene.output = scene.output ++ (rowsText ++ "\n") ∧
      Json.render (.list (descriptions.map Description.toValue)) = .ok descriptionsText ∧
      (arguments.describing.run scene).scene.Holds file (descriptionsText ++ "\n") ∧
      (atlas.book.classify atlas.theme codes).length = descriptions.length ∧
      ((atlas.book.classify atlas.theme codes).map (·.territory) =
          descriptions.map (·.territory) ↔
        ∀ code ∈ arguments.codes, Text.isBlankText code = false →
          atlas.book.owner? (Text.trim code) = atlas.book.owner? code) := by
  obtain ⟨codes, rowsText, hcodes, hrows, houtput⟩ :=
    classifying_output hstarted hatlas hlog hclassify
  obtain ⟨codes', descriptions, descriptionsText, hcodes', hdescriptions, htext, hholds⟩ :=
    describing_holds hstarted hatlas hout hlog hdescribe
  have hsame : codes' = codes := Except.ok.inj (hcodes'.symm.trans hcodes)
  subst hsame
  obtain ⟨listed, hall, htrimmed⟩ := Scene.codes_eq hcodes
  have hfilled : ∀ code ∈ codes', Text.isBlankText code = false := by
    intro code hcode
    rw [hall] at hcode
    exact Bool.not_eq_true' _ ▸ (List.mem_filter.mp hcode).2
  have hclassified := Rulebook.map_territory_classify atlas.book atlas.theme hfilled
  have hdescribed :=
    Scene.map_territory_describeAll (Scene.isCoherent_of_atlas hatlas) hdescriptions
  refine ⟨codes', descriptions, rowsText, descriptionsText, hcodes, hdescriptions, hrows, houtput,
    htext, hholds, ?_, ?_⟩
  · have hlengths := congrArg List.length hclassified
    have hlengths' := congrArg List.length hdescribed
    rw [List.length_map, List.length_map] at hlengths hlengths'
    rw [hlengths, hlengths']
  · rw [hclassified, hdescribed, List.map_inj_left, hall]
    constructor
    · intro howners code hcode hblank
      refine howners code (List.mem_filter.mpr ⟨List.mem_append_left _ hcode, ?_⟩)
      rw [hblank]
      rfl
    · intro howners code hcode
      obtain ⟨hmem, hblank⟩ := List.mem_filter.mp hcode
      rcases List.mem_append.mp hmem with hargument | hlisted
      · exact howners code hargument (Bool.not_eq_true' _ ▸ hblank)
      · rw [htrimmed code hlisted]

end

/-- A question about a code with blanks around it, the answer to go to a file. -/
def askedForPadded : Arguments :=
  { command := .describe, territories := some "t.csv", codes := [" W1 "],
    options := { out := .text "out.json" } }

/-- A table with one territory. -/
def singleTable : String := "id,prefixes\nT1,W1\n"

/-- The rulebook of the table. -/
def singleBook : Rulebook :=
  .ofRecords Settings.minimalPalette [{ id := "T1", tokens := "W1" }]

/-- The atlas of the table with the shortest settings. -/
def singleAtlas : Atlas :=
  { theme := Settings.minimalTheme, book := singleBook }

/-- The table is loaded. -/
theorem load_singleTable :
    Rulebook.load Settings.minimalTheme.palette singleTable = .ok ⟨singleBook, 1⟩ :=
  Rulebook.load_of_records (by decide +kernel) Settings.minimalPalette

/-- Both commands succeed for the code with blanks around it. The classification says that it
belongs to the territory, and the description that it belongs to none. -/
theorem padded_owners_differ :
    ∃ (scene : Scene) (codes : List String) (descriptions : List Description),
      askedForPadded.started? scene = some scene ∧
      scene.atlas askedForPadded = .ok singleAtlas ∧
      askedForPadded.options.out.text? = some "out.json" ∧ ¬scene.ReadsLog askedForPadded ∧
      (askedForPadded.classifying.run scene).exit ≠ .failure ∧
      (askedForPadded.describing.run scene).exit ≠ .failure ∧
      scene.codes askedForPadded = .ok codes ∧
      Scene.describeAll singleAtlas codes = .ok descriptions ∧
      (singleAtlas.book.classify singleAtlas.theme codes).map (·.territory) ≠
        descriptions.map (·.territory) := by
  let scene := Scene.besideMinimalSettings singleTable
  have hstarted : askedForPadded.started? scene = some scene := rfl
  have hatlas : scene.atlas askedForPadded = .ok singleAtlas :=
    Scene.atlas_besideMinimalSettings ⟨rfl, rfl, rfl⟩ load_singleTable
  have hlog : ¬scene.ReadsLog askedForPadded := by
    rintro ⟨file, place, hfile, -⟩
    cases hfile
  have hclassify : (askedForPadded.classifying.run scene).exit ≠ .failure := by
    have hdelivers : askedForPadded.classifying.Delivers scene scene singleAtlas (.document (.list
        ((singleBook.classify Settings.minimalTheme [" W1 "]).map Classified.toValue))) := by
      refine ⟨hstarted, hatlas, ?_⟩
      rw [Scene.prepare_classify_output rfl rfl]
      rfl
    rw [ne_eq, (hdelivers.output rfl).1, Delivery.stops_rows]
    exact Bool.false_ne_true
  have hdescribe : (askedForPadded.describing.run scene).exit ≠ .failure := by
    have hdescriptions : Scene.describeAll singleAtlas [" W1 "] =
        .ok [⟨" W1 ", none, [" W1 "]⟩] := by decide +kernel
    have hdelivers : askedForPadded.describing.Delivers scene scene singleAtlas
        (.document (.list ([⟨" W1 ", none, [" W1 "]⟩].map Description.toValue))) := by
      refine ⟨hstarted, hatlas, ?_⟩
      rw [Scene.prepare_describe_file rfl rfl]
      have hcodes : (askedForPadded.describing.ready scene).codes askedForPadded.describing =
          .ok [" W1 "] := rfl
      rw [hcodes, Except.bind, hdescriptions]
      rfl
    obtain ⟨written, hwrite⟩ := Scene.write_besideMinimalSettings singleTable
      (Delivery.document (.list ([⟨" W1 ", none, [" W1 "]⟩].map Description.toValue))).written
    rw [ne_eq, (hdelivers.writes rfl rfl hwrite).1, Delivery.stops_descriptions]
    exact Bool.false_ne_true
  obtain ⟨codes, descriptions, -, -, hcodes, hdescriptions, -, -, -, -, -, hagree⟩ :=
    classified_owners_eq_described_iff hstarted hatlas rfl hlog hclassify hdescribe
  refine ⟨scene, codes, descriptions, hstarted, hatlas, rfl, hlog, hclassify, hdescribe, hcodes,
    hdescriptions, fun hsame => ?_⟩
  have howners := hagree.mp hsame " W1 " (List.mem_singleton_self _) (by decide +kernel)
  exact absurd howners (by decide +kernel)

end Arguments

end DistrictAtlas
