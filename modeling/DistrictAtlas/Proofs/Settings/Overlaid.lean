import DistrictAtlas.Proofs.Settings.PathLaw
import DistrictAtlas.Proofs.Settings.WellFormed

/-!
# Settings under an overlay

A document that was read has no key twice in a mapping, so it may be laid over settings. Each
thing that a theme names is found at the end of a path of keys, and none of these things is a mapping:
so it comes from the overlay where this has the path, and from the settings below where it has not.
-/

namespace DistrictAtlas

/-! ## Documents -/

namespace Yaml

namespace Node

mutual

/-- In the value of a tree no key comes twice in a mapping. -/
theorem isProper_value : ∀ node : Node, node.value.IsProper
  | .scalar text isPlain => by
    rw [value]
    exact .scalar _
  | .sequence items => by
    rw [value]
    exact .list _
  | .mapping entries => by
    rw [value]
    exact isProper_entryValues entries [] (.mapping List.Pairwise.nil nofun)

/-- Entries put behind others under their keys leave no key twice. -/
theorem isProper_entryValues : ∀ (entries : List (Node × Node)) (done : List (Scalar × Value)),
    (Value.mapping done).IsProper → (Value.mapping (entryValues done entries)).IsProper
  | [], done, hdone => by
    rw [entryValues]
    exact hdone
  | (key, value) :: rest, done, .mapping hdistinct hinside => by
    rw [entryValues]
    refine isProper_entryValues rest _ (.mapping (hdistinct.put _ _) fun entry hentry => ?_)
    rcases Entries.mem_put hentry with hold | hvalue
    · exact hinside entry hold
    · rw [hvalue]
      exact isProper_value value

end

end Node

/-- In a document that was read no key comes twice in a mapping. -/
theorem isProper_of_read {supply : Supply} {value : Value} (h : read supply = .ok value) :
    value.IsProper := by
  obtain ⟨node, -, hvalue⟩ := Outcome.bind_eq_ok_iff.mp h
  cases node with
  | none =>
    cases hvalue
    exact .scalar .null
  | some node =>
    dsimp only at hvalue
    split at hvalue
    · cases hvalue
    · cases hvalue
      exact node.isProper_value

end Yaml

/-! ## Themes -/

/-- A value is a number, written as a whole number or not. -/
def Value.IsNumber (x : Binary64) (value : Value) : Prop :=
  value = .scalar (.real x) ∨ ∃ n, value = .int n ∧ Binary64.ofInt n = x

/-- Each of the nine things that a theme names is what is found under its keys. -/
structure Theme.IsTakenFrom (find : List String → Option Value) (look : Theme) : Prop where
  /-- The property that holds the codes is a text. -/
  codeProperty : find ["code_property"] = some (.ofWording look.codeProperty)
  /-- The palette is a list of texts. -/
  palette : find ["palette"] = some (.list (look.palette.map Value.text))
  /-- The color of districts that belong to no territory is among the colors. -/
  unmatchedColor : find ["colors", "unmatched"] = some (.text look.unmatchedColor)
  /-- So is the color of districts whose territory has none. -/
  fallbackColor : find ["colors", "fallback"] = some (.text look.fallbackColor)
  /-- So is the color of all districts while no territory is known. -/
  baseColor : find ["colors", "base"] = some (.text look.baseColor)
  /-- The opacity of all districts is a number. -/
  normalOpacity : ∃ value, find ["opacity", "normal"] = some value ∧
    value.IsNumber look.normalOpacity
  /-- So is the opacity of districts whose territory is taken. -/
  dimmedOpacity : ∃ value, find ["opacity", "dimmed"] = some value ∧
    value.IsNumber look.dimmedOpacity
  /-- The areas are a list of texts. -/
  fallbackAreas : find ["areas", "fallback"] =
    some (.list (look.fallbackAreas.map Value.ofWording))
  /-- The number of tokens to show is a whole number. -/
  shownTokens : find ["popup", "max_tokens"] = some (.int look.shownTokens)

/-- A number is no mapping. -/
theorem Value.IsNumber.isMapping_eq_false {x : Binary64} {value : Value} (h : value.IsNumber x) :
    value.isMapping = false := by
  rcases h with rfl | ⟨n, rfl, -⟩ <;> rfl

/-- A number is not the empty value. -/
theorem Value.IsNumber.ne_null {x : Binary64} {value : Value} (h : value.IsNumber x) :
    value ≠ .null := by
  rintro rfl
  rcases h with hreal | ⟨n, hint, -⟩
  · cases hreal
  · cases hint

/-- A text is not the empty value. -/
theorem Value.ofWording_ne_null (text : Wording) : Value.ofWording text ≠ .null := by
  cases text <;> nofun

/-- A theme is also taken from another place, if whatever is found and no mapping is found there. -/
theorem Theme.IsTakenFrom.imp {find other : List String → Option Value} {look : Theme}
    (h : look.IsTakenFrom find)
    (himp : ∀ keys value, find keys = some value → value.isMapping = false →
      other keys = some value) : look.IsTakenFrom other where
  codeProperty := himp _ _ h.codeProperty rfl
  palette := himp _ _ h.palette rfl
  unmatchedColor := himp _ _ h.unmatchedColor rfl
  fallbackColor := himp _ _ h.fallbackColor rfl
  baseColor := himp _ _ h.baseColor rfl
  normalOpacity := h.normalOpacity.imp fun _ found =>
    ⟨himp _ _ found.1 found.2.isMapping_eq_false, found.2⟩
  dimmedOpacity := h.dimmedOpacity.imp fun _ found =>
    ⟨himp _ _ found.1 found.2.isMapping_eq_false, found.2⟩
  fallbackAreas := himp _ _ h.fallbackAreas rfl
  shownTokens := himp _ _ h.shownTokens rfl

namespace Settings

open Outcome

/-- An item that is not empty is found under its key. -/
theorem at?_of_item {key : String} {entries : Part} {value : Value} (h : item key entries = value)
    (hvalue : value ≠ .null) : (Value.mapping entries).at? [.text key] = some value := by
  unfold item at h
  rw [Value.at?_mapping]
  cases hfound : Entries.get? (.text key) entries with
  | some found =>
    rw [hfound] at h
    exact congrArg some h
  | none =>
    rw [hfound] at h
    exact absurd h.symm hvalue

/-- An item of a part that is not empty is found under the key of the part and its own. -/
theorem at?_of_part {part key : String} {entries inner : Part} {value : Value}
    (hpart : item part entries = .mapping inner) (h : item key inner = value)
    (hvalue : value ≠ .null) :
    (Value.mapping entries).at? [.text part, .text key] = some value := by
  rw [Value.at?_cons, at?_of_item hpart nofun, Option.bind_some, at?_of_item h hvalue]

/-- What an opacity is read from is a number. -/
theorem isNumber_of_opacity {part : String} {value : Value} {x : Binary64}
    (h : opacity part value = .ok x) : value.IsNumber x := by
  rcases opacity_eq_ok_iff.mp h with ⟨n, hvalue, -, hn⟩ | ⟨hvalue, -⟩
  · exact Or.inr ⟨n, hvalue, hn⟩
  · exact Or.inl hvalue

/-- The theme that settings describe is taken from them. -/
theorem isTakenFrom_of_theme {allowUnknown : Bool} {settings : Value} {look : Theme}
    (h : theme allowUnknown settings = .ok look) :
    look.IsTakenFrom fun keys => settings.at? (keys.map .text) := by
  obtain ⟨entries, colorPart, opacityPart, areaPart, popupPart, rfl, hlook⟩ := theme_eq_ok_iff.mp h
  exact
    { codeProperty := at?_of_item (codeProperty_eq_ok_iff.mp hlook.codeProperty).1
        (Value.ofWording_ne_null look.codeProperty)
      palette := at?_of_item (palette_eq_ok_iff.mp hlook.palette).1 nofun
      unmatchedColor := at?_of_part hlook.colors (color_eq_ok_iff.mp hlook.unmatchedColor).1 nofun
      fallbackColor := at?_of_part hlook.colors (color_eq_ok_iff.mp hlook.fallbackColor).1 nofun
      baseColor := at?_of_part hlook.colors (color_eq_ok_iff.mp hlook.baseColor).1 nofun
      normalOpacity :=
        have hopacity := isNumber_of_opacity hlook.normalOpacity
        ⟨_, at?_of_part hlook.opacities rfl hopacity.ne_null, hopacity⟩
      dimmedOpacity :=
        have hopacity := isNumber_of_opacity hlook.dimmedOpacity
        ⟨_, at?_of_part hlook.opacities rfl hopacity.ne_null, hopacity⟩
      fallbackAreas := at?_of_part hlook.areas (areas_eq_ok_iff.mp hlook.fallbackAreas).1 nofun
      shownTokens := at?_of_part hlook.popup (shownTokens_eq_ok_iff.mp hlook.shownTokens).1 nofun }

/-! ## Files -/

/-- A reader gives documents in which no key comes twice in a mapping. -/
def Reader.KeepsKeysApart (reader : Reader) : Prop :=
  ∀ bytes document, reader bytes = .ok document → document.IsProper

/-- The usual reader does. -/
theorem Reader.keepsKeysApart_standard : Reader.standard.KeepsKeysApart :=
  fun _ _ hread => Yaml.isProper_of_read hread

section Files

variable {reader : Reader} {files : Files}

/-- In the document of an overlay file no key comes twice in a mapping. -/
theorem isProper_of_overlayAt {path : Option Path} {above : Value}
    (hreader : reader.KeepsKeysApart) (h : overlayAt reader files path = .ok above) :
    above.IsProper := by
  cases path with
  | none =>
    cases h
    exact .scalar .null
  | some path =>
    obtain ⟨isThere, -, hread⟩ := bind_eq_ok_iff.mp h
    cases isThere with
    | false =>
      cases hread
      exact .scalar .null
    | true =>
      obtain ⟨bytes, -, hyaml⟩ := bind_eq_ok_iff.mp hread
      exact hreader bytes above (mapError_eq_ok_iff.mp hyaml)

/-- Settings with a mapping laid over them are the settings laid under it. -/
theorem document_eq_overlay {path overlayPath : Path} {below above : Value}
    (hbelow : base reader files path = .ok below)
    (habove : overlayAt reader files (some overlayPath) = .ok above)
    (hmapping : above.isMapping = true) :
    document reader files path (some overlayPath) = .ok (below.overlay above) := by
  unfold document
  rw [hbelow, habove]
  cases above with
  | scalar value => cases hmapping
  | list items => cases hmapping
  | mapping entries => rfl

/-- A theme that is loaded with a mapping laid over the settings is taken from this mapping where it
has the path of keys, and from the settings where it has not. -/
theorem isTakenFrom_of_load {folder overlayFolder : Path} {allowUnknown : Bool}
    {below above : Value} {look : Theme} (hreader : reader.KeepsKeysApart)
    (hbelow : base reader files (folder.child fileName) = .ok below)
    (habove : overlayAt reader files (some (overlayFolder.child fileName)) = .ok above)
    (hmapping : above.isMapping = true)
    (hload : load reader files folder (some overlayFolder) allowUnknown = .ok look) :
    look.IsTakenFrom fun keys =>
      (above.at? (keys.map .text)).or (below.at? (keys.map .text)) := by
  obtain ⟨settings, hsettings, htheme⟩ := bind_eq_ok_iff.mp hload
  have hdocument := document_eq_overlay hbelow habove hmapping
  obtain rfl : below.overlay above = settings := Except.ok.inj (hdocument.symm.trans hsettings)
  exact (isTakenFrom_of_theme (mapError_eq_ok_iff.mp htheme)).imp fun keys value hvalue hplain =>
    Value.or_at?_of_at?_overlay (isProper_of_overlayAt hreader habove) hvalue hplain

end Files

/-- Overlays obey the path law: along a path of keys the overlay alone shows from the first value on
that is no mapping, what is below shows where the overlay has mappings only and then nothing, mappings
are joined, and the same overlay again changes nothing. So each of the nine things that a theme names,
where a mapping is laid over the settings, is what this mapping has under its keys, and else what the
settings have there. How the files are read makes no difference, as long as no key comes twice in a
mapping that is read. -/
theorem overlay_pathLaw :
    (∀ below above : Value, above.IsProper → below.PathLaw above) ∧
      ∀ (reader : Reader) (files : Files) (folder overlayFolder : Path) (allowUnknown : Bool)
        (below above : Value) (look : Theme),
        reader.KeepsKeysApart →
        base reader files (folder.child fileName) = .ok below →
        overlayAt reader files (some (overlayFolder.child fileName)) = .ok above →
        above.isMapping = true →
        load reader files folder (some overlayFolder) allowUnknown = .ok look →
        look.IsTakenFrom fun keys =>
          (above.at? (keys.map .text)).or (below.at? (keys.map .text)) :=
  ⟨fun below _ habove => Value.pathLaw_of_isProper below habove,
    fun _ _ _ _ _ _ _ _ hreader hbelow habove hmapping hload =>
      isTakenFrom_of_load hreader hbelow habove hmapping hload⟩

/-- An overlay with another palette and another color for the base. -/
def duskText : String :=
  "palette: ['#4e79a7']\ncolors: \x7bbase: '#222222', extra: [1]\x7d\n"

/-- The shortest settings, and the overlay in a folder of its own. -/
def duskFiles : Files :=
  Files.ofList [("config/style.yml", some (Utf8.encode minimalText)),
    ("dusk/style.yml", some (Utf8.encode duskText))]

/-- The theme that they describe together. -/
def duskTheme : Theme := { minimalTheme with palette := ["#4e79a7"], baseColor := "#222222" }

/-- The settings below and the overlay are the documents in their files. -/
theorem read_duskFiles :
    base .standard duskFiles ((Path.read "config").child fileName) =
        (Yaml.read (Yaml.Supply.ofChars (Text.withLineFeeds minimalText).toList)).mapError .yaml ∧
      overlayAt .standard duskFiles (some ((Path.read "dusk").child fileName)) =
        (Yaml.read (Yaml.Supply.ofChars (Text.withLineFeeds duskText).toList)).mapError .yaml := by
  have hbelow : duskFiles.read ((Path.read "config").child fileName) =
      .ok (Utf8.encode minimalText) := rfl
  have habove : duskFiles.read ((Path.read "dusk").child fileName) =
      .ok (Utf8.encode duskText) := rfl
  rw [base_of_read hbelow, overlayAt_of_read habove, standard_encode, standard_encode]
  exact ⟨rfl, rfl⟩

set_option maxRecDepth 4000 in
/-- The theme is loaded. -/
theorem load_duskFiles :
    load .standard duskFiles (Path.read "config") (some (Path.read "dusk")) false = .ok duskTheme := by
  have hbelow : minimalText = String.ofList _ := rfl
  have habove : duskText = String.ofList _ := rfl
  unfold load document
  rw [Option.map_some, read_duskFiles.1, read_duskFiles.2, hbelow, habove]
  unfold Text.withLineFeeds
  rw [String.toList_ofList, String.toList_ofList, String.toList_ofList, String.toList_ofList]
  decide +kernel

/-- The documents in the two files obey the path law, and the theme is taken from them. -/
theorem duskFiles_obey_pathLaw : ∃ below above,
    base .standard duskFiles ((Path.read "config").child fileName) = .ok below ∧
      overlayAt .standard duskFiles (some ((Path.read "dusk").child fileName)) = .ok above ∧
      above.isMapping = true ∧ above.IsProper ∧ below.PathLaw above ∧
      duskTheme.IsTakenFrom fun keys =>
        (above.at? (keys.map .text)).or (below.at? (keys.map .text)) := by
  obtain ⟨settings, hdocument, -⟩ := bind_eq_ok_iff.mp load_duskFiles
  obtain ⟨below, hbelow, hrest⟩ := bind_eq_ok_iff.mp hdocument
  obtain ⟨above, habove, -⟩ := bind_eq_ok_iff.mp hrest
  have hmapping : above.isMapping = true := by
    have hread : (Yaml.read (Yaml.Supply.ofChars (Text.withLineFeeds duskText).toList)).map
        Value.isMapping = .ok true := by
      have hchars : duskText = String.ofList _ := rfl
      rw [Text.withLineFeeds, hchars, String.toList_ofList, String.toList_ofList]
      decide +kernel
    obtain ⟨value, hvalue, hmapping⟩ := map_eq_ok_iff.mp hread
    rw [Option.map_some, read_duskFiles.2, hvalue] at habove
    cases habove
    exact hmapping
  have hproper : above.IsProper := isProper_of_overlayAt Reader.keepsKeysApart_standard habove
  exact ⟨below, above, hbelow, habove, hmapping, hproper, overlay_pathLaw.1 below above hproper,
    overlay_pathLaw.2 .standard duskFiles _ _ false below above duskTheme
      Reader.keepsKeysApart_standard hbelow habove hmapping load_duskFiles⟩

end Settings

end DistrictAtlas
