import DistrictAtlas.Proofs.Number.Values
import DistrictAtlas.Proofs.Outcome
import DistrictAtlas.Proofs.Settings.Loading

/-!
# Accepted settings

Each reader of a part of the settings lets nothing pass but what suits the part, so the theme that
settings describe is well formed. Its colors are a number sign and six hexadecimal digits, with the
one exception that a line feed may stand behind them.
-/

namespace DistrictAtlas

/-- The colors that a theme names, those of the territories first. -/
def Theme.colors (look : Theme) : List String :=
  look.palette ++ [look.unmatchedColor, look.fallbackColor, look.baseColor]

/-- All that a theme names suits its purpose, where the colors have to be of a certain kind. -/
structure Theme.IsWellFormed (isColor : String → Prop) (look : Theme) : Prop where
  /-- The property that holds the codes has a name. -/
  codeProperty : look.codeProperty ≠ .whole ""
  /-- There is a color for territories. -/
  palette : look.palette ≠ []
  /-- All colors are of the kind. -/
  colors : ∀ color ∈ look.colors, isColor color
  /-- The opacity of districts lies between zero and one. -/
  normalOpacity : look.normalOpacity.IsShare
  /-- So does the opacity of districts whose territory is taken. -/
  dimmedOpacity : look.dimmedOpacity.IsShare
  /-- The postcode areas have names. -/
  fallbackAreas : ∀ area ∈ look.fallbackAreas, area ≠ .whole ""
  /-- A description shows a token. -/
  shownTokens : 1 ≤ look.shownTokens

/-- Nothing but the colors changes with the kind of colors. -/
theorem Theme.IsWellFormed.recolor {isColor isColor' : String → Prop} {look : Theme}
    (h : look.IsWellFormed isColor) (hcolors : ∀ color ∈ look.colors, isColor' color) :
    look.IsWellFormed isColor' :=
  { h with colors := hcolors }

namespace Settings

open Outcome

/-! ## Colors -/

/-- The hexadecimal digits. -/
def hexDigits : List Char := "0123456789abcdefABCDEF".toList

/-- The characters that pass for hexadecimal digits are these. -/
theorem isHexDigit_iff (c : Char) : Text.isHexDigit c = true ↔ c ∈ hexDigits := by
  constructor
  · intro h
    -- nothing above the last of the digits passes, and below it each character can be looked at
    have hbound : c.toNat < 103 := by
      obtain ⟨value, hvalue⟩ := Option.isSome_iff_exists.mp h
      unfold Text.hexValue? at hvalue
      grind
    have hall : ∀ n < 103, Text.isHexDigit (Char.ofNat n) = true → Char.ofNat n ∈ hexDigits := by
      decide +kernel
    rw [← Char.ofNat_toNat c] at h ⊢
    exact hall _ hbound h
  · intro h
    exact List.all_eq_true.mp (by decide : hexDigits.all Text.isHexDigit = true) c h

/-- A text is a number sign and six hexadecimal digits. -/
def IsPlainColor (s : String) : Prop :=
  ∃ digits : List Char, s.toList = '#' :: digits ∧ digits.length = 6 ∧ ∀ c ∈ digits, c ∈ hexDigits

/-- A text is a color, or a color with a line feed behind it. -/
def IsColorLine (s : String) : Prop :=
  IsPlainColor s ∨ ∃ plain, IsPlainColor plain ∧ s = plain ++ "\n"

/-- A color has seven characters. -/
theorem IsPlainColor.length_eq {s : String} (h : IsPlainColor s) : s.length = 7 := by
  obtain ⟨digits, hs, hlength, -⟩ := h
  rw [← String.length_toList, hs, List.length_cons, hlength]

/-- What passes for a color is read from its characters: a number sign, six digits, and nothing or a
line feed behind them. -/
theorem isColor_iff_toList (s : String) : isColor s = true ↔ ∃ digits behind,
    s.toList = '#' :: (digits ++ behind) ∧ digits.length = 6 ∧ (∀ c ∈ digits, c ∈ hexDigits) ∧
      (behind = [] ∨ behind = ['\n']) := by
  unfold isColor
  constructor
  · intro h
    split at h
    · next rest hs =>
      simp only [Bool.and_eq_true, Bool.or_eq_true, decide_eq_true_eq, List.all_eq_true,
        isHexDigit_iff] at h
      obtain ⟨⟨hlength, hdigits⟩, hbehind⟩ := h
      exact ⟨rest.take 6, rest.drop 6, by rw [hs, List.take_append_drop], hlength, hdigits, hbehind⟩
    · cases h
  · rintro ⟨digits, behind, hs, hlength, hdigits, hbehind⟩
    split
    · next rest hrest =>
      have heq : rest = digits ++ behind := (List.cons.inj (hrest.symm.trans hs)).2
      rw [heq, List.take_left' hlength, List.drop_left' hlength]
      simpa only [Bool.and_eq_true, Bool.or_eq_true, decide_eq_true_eq, List.all_eq_true,
        isHexDigit_iff] using ⟨⟨hlength, hdigits⟩, hbehind⟩
    · next hno => exact absurd hs (hno _)

/-- The texts that pass for colors are the colors and the colors with a line feed behind them. -/
theorem isColor_iff (s : String) : isColor s = true ↔ IsColorLine s := by
  rw [isColor_iff_toList]
  constructor
  · rintro ⟨digits, behind, hs, hlength, hdigits, rfl | rfl⟩
    · exact Or.inl ⟨digits, by rw [hs, List.append_nil], hlength, hdigits⟩
    · refine Or.inr ⟨String.ofList ('#' :: digits), ⟨digits, String.toList_ofList, hlength, hdigits⟩,
        String.toList_inj.mp ?_⟩
      rw [hs, String.toList_append, String.toList_ofList]
      rfl
  · rintro (⟨digits, hs, hlength, hdigits⟩ | ⟨plain, ⟨digits, hplain, hlength, hdigits⟩, rfl⟩)
    · exact ⟨digits, [], by rw [hs, List.append_nil], hlength, hdigits, Or.inl rfl⟩
    · refine ⟨digits, ['\n'], ?_, hlength, hdigits, Or.inr rfl⟩
      rw [String.toList_append, hplain]
      rfl

/-! ## Readers -/

/-- A complaint that shows a value is no success, whether the value can be shown or not. -/
theorem complaint_ne_ok {α : Type} (value : Value) (fault : String → Fault) (result : α) :
    (shown value >>= fun text => fail (fault text)) ≠ .ok result := by
  intro h
  obtain ⟨text, -, hfail⟩ := bind_eq_ok_iff.mp h
  cases hfail

/-- A part that is a mapping is read as its entries. -/
theorem mapping_eq_ok_iff {part : String} {value : Value} {entries : Part} :
    mapping part value = .ok entries ↔ value = .mapping entries := by
  constructor
  · intro h
    unfold mapping at h
    split at h
    · cases h
      rfl
    · cases h
  · rintro rfl
    rfl

/-- A color is read from a text that is one, but for a line feed behind it. -/
theorem color_eq_ok_iff {part s : String} {value : Value} :
    color part value = .ok s ↔ value = .text s ∧ IsColorLine s := by
  constructor
  · intro h
    unfold color at h
    split at h
    · split at h
      · next hcolor =>
        cases h
        exact ⟨rfl, (isColor_iff s).mp hcolor⟩
      · exact absurd h (complaint_ne_ok _ _ _)
    · exact absurd h (complaint_ne_ok _ _ _)
  · rintro ⟨rfl, hcolor⟩
    exact if_pos ((isColor_iff s).mpr hcolor)

/-- Colors are read from a list of texts that are colors. -/
theorem colors_eq_ok_iff {values : List Value} {index : Nat} {read : List String} :
    colors index values = .ok read ↔
      values = read.map Value.text ∧ ∀ color ∈ read, IsColorLine color := by
  induction values generalizing index read with
  | nil =>
    constructor
    · intro h
      cases h
      exact ⟨rfl, nofun⟩
    · rintro ⟨hread, -⟩
      rw [List.map_eq_nil_iff.mp hread.symm, colors]
  | cons value rest ih =>
    simp only [colors, bind_eq_ok_iff, pure_eq_ok_iff, color_eq_ok_iff, ih]
    constructor
    · rintro ⟨first, ⟨rfl, hfirst⟩, others, ⟨rfl, hothers⟩, rfl⟩
      exact ⟨rfl, List.forall_mem_cons.mpr ⟨hfirst, hothers⟩⟩
    · rintro ⟨hread, hcolors⟩
      obtain ⟨first, others, rfl, rfl, rfl⟩ := List.map_eq_cons_iff.mp hread.symm
      obtain ⟨hfirst, hothers⟩ := List.forall_mem_cons.mp hcolors
      exact ⟨first, ⟨rfl, hfirst⟩, others, ⟨rfl, hothers⟩, rfl⟩

/-- A palette is read from a list of colors that is not empty. -/
theorem palette_eq_ok_iff {value : Value} {read : List String} :
    palette value = .ok read ↔
      value = .list (read.map Value.text) ∧ read ≠ [] ∧ ∀ color ∈ read, IsColorLine color := by
  constructor
  · intro h
    unfold palette at h
    split at h
    · cases h
    · next values hvalues =>
      obtain ⟨rfl, hcolors⟩ := colors_eq_ok_iff.mp h
      exact ⟨rfl, fun hread => hvalues (List.map_eq_nil_iff.mpr hread), hcolors⟩
    · cases h
  · rintro ⟨rfl, hnonempty, hcolors⟩
    cases read with
    | nil => exact absurd rfl hnonempty
    | cons first others => exact colors_eq_ok_iff.mpr ⟨rfl, hcolors⟩

/-- An opacity is read from the whole numbers zero and one, and from the doubles between them. -/
theorem opacity_eq_ok_iff {part : String} {value : Value} {x : Binary64} :
    opacity part value = .ok x ↔
      (∃ n, value = .int n ∧ (n = 0 ∨ n = 1) ∧ Binary64.ofInt n = x) ∨
        (value = .scalar (.real x) ∧ x.isUnit = true) := by
  constructor
  · intro h
    unfold opacity at h
    split at h
    · split at h
      · next n hn => exact Or.inl ⟨n, rfl, hn, Except.ok.inj h⟩
      · exact absurd h (complaint_ne_ok _ _ _)
    · split at h
      · next hunit =>
        cases h
        exact Or.inr ⟨rfl, hunit⟩
      · exact absurd h (complaint_ne_ok _ _ _)
    · exact absurd h (complaint_ne_ok _ _ _)
  · rintro (⟨n, rfl, hn, rfl⟩ | ⟨rfl, hunit⟩)
    · exact if_pos hn
    · exact if_pos hunit

/-- What is read as an opacity lies between zero and one. -/
theorem isShare_of_opacity {part : String} {value : Value} {x : Binary64}
    (h : opacity part value = .ok x) : x.IsShare := by
  rcases opacity_eq_ok_iff.mp h with ⟨n, -, hn, rfl⟩ | ⟨-, hunit⟩
  · refine Binary64.isShare_of_isUnit ?_
    rcases hn with rfl | rfl <;> decide +kernel
  · exact Binary64.isShare_of_isUnit hunit

/-- A value is a text if it is the value of this text. -/
theorem wording?_eq_some_iff {value : Value} {text : Wording} :
    value.wording? = some text ↔ value = .ofWording text := by
  constructor
  · intro h
    unfold Value.wording? Scalar.wording? at h
    split at h
    · split at h
      · cases h
        rfl
      · cases h
        rfl
      · cases h
    · cases h
  · rintro rfl
    exact Scalar.wording?_ofWording text

/-- A text has nothing in it if it is the empty one. -/
theorem isEmpty_iff {text : Wording} : text.isEmpty = true ↔ text = .whole "" := by
  cases text with
  | whole s =>
    rw [Wording.isEmpty, String.isEmpty_iff, Wording.whole.injEq]
  | torn s => exact iff_of_false nofun nofun

/-- A full text is a text that is not empty. -/
theorem fullText?_eq_some_iff {value : Value} {text : Wording} :
    fullText? value = some text ↔ value = .ofWording text ∧ text ≠ .whole "" := by
  rw [fullText?, Option.filter_eq_some_iff, wording?_eq_some_iff, Bool.not_eq_true',
    ← Bool.not_eq_true, isEmpty_iff]

/-- The name of a property is read from a text that is not empty. -/
theorem codeProperty_eq_ok_iff {value : Value} {name : Wording} :
    codeProperty value = .ok name ↔ value = .ofWording name ∧ name ≠ .whole "" := by
  rw [← fullText?_eq_some_iff, codeProperty]
  cases fullText? value with
  | none => exact iff_of_false nofun nofun
  | some found =>
    rw [Option.some_inj]
    exact ⟨Except.ok.inj, congrArg Except.ok⟩

/-- The texts of a list are found when it holds nothing but texts, none of them empty. -/
theorem fullTexts?_eq_some_iff {values : List Value} {texts : List Wording} :
    fullTexts? values = some texts ↔
      values = texts.map Value.ofWording ∧ ∀ s ∈ texts, s ≠ .whole "" := by
  induction values generalizing texts with
  | nil =>
    constructor
    · intro h
      cases h
      exact ⟨rfl, nofun⟩
    · rintro ⟨htexts, -⟩
      rw [List.map_eq_nil_iff.mp htexts.symm, fullTexts?]
  | cons value rest ih =>
    simp only [fullTexts?, Option.bind_eq_bind, Option.bind_eq_some_iff, fullText?_eq_some_iff, ih]
    constructor
    · rintro ⟨first, ⟨rfl, hfirst⟩, others, ⟨rfl, hothers⟩, ⟨⟩⟩
      exact ⟨rfl, List.forall_mem_cons.mpr ⟨hfirst, hothers⟩⟩
    · rintro ⟨htexts, hfull⟩
      obtain ⟨first, others, rfl, rfl, rfl⟩ := List.map_eq_cons_iff.mp htexts.symm
      obtain ⟨hfirst, hothers⟩ := List.forall_mem_cons.mp hfull
      exact ⟨first, ⟨rfl, hfirst⟩, others, ⟨rfl, hothers⟩, rfl⟩

/-- Areas are read from a list of texts that are not empty. -/
theorem areas_eq_ok_iff {value : Value} {names : List Wording} :
    areas value = .ok names ↔
      value = .list (names.map Value.ofWording) ∧ ∀ name ∈ names, name ≠ .whole "" := by
  constructor
  · intro h
    unfold areas at h
    split at h
    · split at h
      · next hnames =>
        cases h
        obtain ⟨rfl, hfull⟩ := fullTexts?_eq_some_iff.mp hnames
        exact ⟨rfl, hfull⟩
      · cases h
    · cases h
  · rintro ⟨rfl, hfull⟩
    rw [areas, fullTexts?_eq_some_iff.mpr ⟨rfl, hfull⟩]

/-- A number of tokens is read from a positive whole number. -/
theorem shownTokens_eq_ok_iff {value : Value} {number : Int} :
    shownTokens value = .ok number ↔ value = .int number ∧ 1 ≤ number := by
  constructor
  · intro h
    unfold shownTokens at h
    split at h
    · split at h
      · cases h
      · next hnumber =>
        cases h
        exact ⟨rfl, Int.not_lt.mp hnumber⟩
    · cases h
  · rintro ⟨rfl, hnumber⟩
    exact if_neg (Int.not_lt.mpr hnumber)

/-! ## Themes -/

/-- The entries of settings describe a theme, four of the parts being mappings with these entries. -/
structure Describe (allowUnknown : Bool) (entries colorPart opacityPart areaPart popupPart : Part)
    (look : Theme) : Prop where
  /-- All parts are there and, unless unknown ones are allowed, no others. -/
  parts : checkParts allowUnknown entries = .ok ()
  /-- The property that holds the codes is named. -/
  codeProperty : codeProperty (item "code_property" entries) = .ok look.codeProperty
  /-- The colors for territories are listed. -/
  palette : palette (item "palette" entries) = .ok look.palette
  /-- The other colors are a mapping. -/
  colors : item "colors" entries = .mapping colorPart
  /-- There are three of them. -/
  colorKeys : requireKeys "colors" ["base", "fallback", "unmatched"] colorPart = .ok ()
  /-- One is for districts that belong to no territory. -/
  unmatchedColor : color "colors.unmatched" (item "unmatched" colorPart) = .ok look.unmatchedColor
  /-- One is for districts whose territory has no color. -/
  fallbackColor : color "colors.fallback" (item "fallback" colorPart) = .ok look.fallbackColor
  /-- One is for all districts while no territory is known. -/
  baseColor : color "colors.base" (item "base" colorPart) = .ok look.baseColor
  /-- The opacities are a mapping. -/
  opacities : item "opacity" entries = .mapping opacityPart
  /-- There are two of them. -/
  opacityKeys : requireKeys "opacity" ["dimmed", "normal"] opacityPart = .ok ()
  /-- One is for all districts. -/
  normalOpacity : opacity "opacity.normal" (item "normal" opacityPart) = .ok look.normalOpacity
  /-- One is for districts whose territory is taken. -/
  dimmedOpacity : opacity "opacity.dimmed" (item "dimmed" opacityPart) = .ok look.dimmedOpacity
  /-- The areas are a mapping. -/
  areas : item "areas" entries = .mapping areaPart
  /-- It has one list. -/
  areaKeys : requireKeys "areas" ["fallback"] areaPart = .ok ()
  /-- The list names the areas. -/
  fallbackAreas : Settings.areas (item "fallback" areaPart) = .ok look.fallbackAreas
  /-- The settings of descriptions are a mapping. -/
  popup : item "popup" entries = .mapping popupPart
  /-- It has one number. -/
  popupKeys : requireKeys "popup" ["max_tokens"] popupPart = .ok ()
  /-- The number is that of the tokens to show. -/
  shownTokens : shownTokens (item "max_tokens" popupPart) = .ok look.shownTokens

/-- Settings describe a theme when they are a mapping whose entries do. -/
theorem theme_eq_ok_iff {allowUnknown : Bool} {settings : Value} {look : Theme} :
    theme allowUnknown settings = .ok look ↔
      ∃ entries colorPart opacityPart areaPart popupPart, settings = .mapping entries ∧
        Describe allowUnknown entries colorPart opacityPart areaPart popupPart look := by
  simp only [theme, bind_eq_ok_iff, pure_eq_ok_iff, mapping_eq_ok_iff]
  constructor
  · rintro ⟨entries, hsettings, ⟨⟩, hparts, codeProperty, hcodeProperty, palette, hpalette,
      colorPart, hcolors, ⟨⟩, hcolorKeys, unmatched, hunmatched, fallback, hfallback, base, hbase,
      opacityPart, hopacities, ⟨⟩, hopacityKeys, normal, hnormal, dimmed, hdimmed,
      areaPart, hareas, ⟨⟩, hareaKeys, names, hnames, popupPart, hpopup, ⟨⟩, hpopupKeys,
      number, hnumber, rfl⟩
    exact ⟨entries, colorPart, opacityPart, areaPart, popupPart, hsettings, hparts, hcodeProperty,
      hpalette, hcolors, hcolorKeys, hunmatched, hfallback, hbase, hopacities, hopacityKeys, hnormal,
      hdimmed, hareas, hareaKeys, hnames, hpopup, hpopupKeys, hnumber⟩
  · rintro ⟨entries, colorPart, opacityPart, areaPart, popupPart, hsettings, h⟩
    exact ⟨entries, hsettings, (), h.parts, _, h.codeProperty, _, h.palette,
      colorPart, h.colors, (), h.colorKeys, _, h.unmatchedColor, _, h.fallbackColor, _, h.baseColor,
      opacityPart, h.opacities, (), h.opacityKeys, _, h.normalOpacity, _, h.dimmedOpacity,
      areaPart, h.areas, (), h.areaKeys, _, h.fallbackAreas, popupPart, h.popup, (), h.popupKeys,
      _, h.shownTokens, rfl⟩

/-- The theme that settings describe is well formed, its colors as far as line feeds go. -/
theorem isWellFormed_of_theme {allowUnknown : Bool} {settings : Value} {look : Theme}
    (h : theme allowUnknown settings = .ok look) : look.IsWellFormed IsColorLine := by
  obtain ⟨entries, colorPart, opacityPart, areaPart, popupPart, -, hlook⟩ := theme_eq_ok_iff.mp h
  obtain ⟨-, hnonempty, hcolors⟩ := palette_eq_ok_iff.mp hlook.palette
  have hothers : ∀ color ∈ [look.unmatchedColor, look.fallbackColor, look.baseColor],
      IsColorLine color := by
    simp only [List.forall_mem_cons]
    exact ⟨(color_eq_ok_iff.mp hlook.unmatchedColor).2, (color_eq_ok_iff.mp hlook.fallbackColor).2,
      (color_eq_ok_iff.mp hlook.baseColor).2, nofun⟩
  exact
    { codeProperty := (codeProperty_eq_ok_iff.mp hlook.codeProperty).2
      palette := hnonempty
      colors := List.forall_mem_append.mpr ⟨hcolors, hothers⟩
      normalOpacity := isShare_of_opacity hlook.normalOpacity
      dimmedOpacity := isShare_of_opacity hlook.dimmedOpacity
      fallbackAreas := (areas_eq_ok_iff.mp hlook.fallbackAreas).2
      shownTokens := (shownTokens_eq_ok_iff.mp hlook.shownTokens).2 }

/-- Settings that write a theme out. -/
def written (look : Theme) : Value :=
  .record [("code_property", .ofWording look.codeProperty),
    ("palette", .list (look.palette.map Value.text)),
    ("colors", .record [("unmatched", .text look.unmatchedColor),
      ("fallback", .text look.fallbackColor), ("base", .text look.baseColor)]),
    ("opacity", .record [("normal", .scalar (.real look.normalOpacity)),
      ("dimmed", .scalar (.real look.dimmedOpacity))]),
    ("areas", .record [("fallback", .list (look.fallbackAreas.map Value.ofWording))]),
    ("popup", .record [("max_tokens", .int look.shownTokens)])]

/-- A well-formed theme is described by the settings that write it out. -/
theorem theme_written (allowUnknown : Bool) {look : Theme} (h : look.IsWellFormed IsColorLine)
    (hnormal : look.normalOpacity.IsDouble) (hdimmed : look.dimmedOpacity.IsDouble) :
    theme allowUnknown (written look) = .ok look := by
  have hcolors := List.forall_mem_append.mp h.colors
  have hcolor : ∀ part, ∀ s ∈ [look.unmatchedColor, look.fallbackColor, look.baseColor],
      color part (.text s) = .ok s :=
    fun part s hmem => color_eq_ok_iff.mpr ⟨rfl, hcolors.2 s hmem⟩
  have hopacity : ∀ part x, x.IsDouble → x.IsShare → opacity part (.scalar (.real x)) = .ok x :=
    fun part x hdouble hshare =>
      opacity_eq_ok_iff.mpr (Or.inr ⟨rfl, Binary64.isUnit_of_isShare hdouble hshare⟩)
  exact theme_eq_ok_iff.mpr ⟨_, _, _, _, _, rfl,
    { parts := by cases allowUnknown <;> rfl
      codeProperty := codeProperty_eq_ok_iff.mpr ⟨rfl, h.codeProperty⟩
      palette := palette_eq_ok_iff.mpr ⟨rfl, h.palette, hcolors.1⟩
      colors := rfl
      colorKeys := rfl
      unmatchedColor := hcolor _ _ (by simp)
      fallbackColor := hcolor _ _ (by simp)
      baseColor := hcolor _ _ (by simp)
      opacities := rfl
      opacityKeys := rfl
      normalOpacity := hopacity _ _ hnormal h.normalOpacity
      dimmedOpacity := hopacity _ _ hdimmed h.dimmedOpacity
      areas := rfl
      areaKeys := rfl
      fallbackAreas := areas_eq_ok_iff.mpr ⟨rfl, h.fallbackAreas⟩
      popup := rfl
      popupKeys := rfl
      shownTokens := shownTokens_eq_ok_iff.mpr ⟨rfl, h.shownTokens⟩ }⟩

/-- A theme that is loaded is described by settings. -/
theorem theme_of_load {reader : Reader} {files : Files} {folder : Path} {overlay : Option Path}
    {allowUnknown : Bool} {look : Theme} (h : load reader files folder overlay allowUnknown = .ok look) :
    ∃ settings, theme allowUnknown settings = .ok look := by
  obtain ⟨settings, -, htheme⟩ := bind_eq_ok_iff.mp h
  exact ⟨settings, mapError_eq_ok_iff.mp htheme⟩

/-- All colors of a theme are a number sign and six digits if none has more characters than that. -/
theorem isWellFormed_plain_iff {look : Theme} (h : look.IsWellFormed IsColorLine) :
    look.IsWellFormed IsPlainColor ↔ ∀ color ∈ look.colors, color.length = 7 := by
  constructor
  · intro hplain color hcolor
    exact (hplain.colors color hcolor).length_eq
  · intro hseven
    refine h.recolor fun color hcolor => ?_
    rcases h.colors color hcolor with hplain | ⟨plain, hplain, rfl⟩
    · exact hplain
    · have hlength := hseven _ hcolor
      rw [String.length_append, hplain.length_eq] at hlength
      exact absurd hlength (by decide)

/-- A theme that is accepted, as a value or from files with or without an overlay however these are
read, is well formed, but a line feed may stand behind a color. Its colors are a number sign and six
hexadecimal digits exactly if each has seven characters. -/
theorem accepted_theme_isWellFormed (allowUnknown : Bool) {look : Theme}
    (h : (∃ settings, theme allowUnknown settings = .ok look) ∨
      ∃ reader files folder overlay, load reader files folder overlay allowUnknown = .ok look) :
    look.IsWellFormed IsColorLine ∧
      (look.IsWellFormed IsPlainColor ↔ ∀ color ∈ look.colors, color.length = 7) := by
  have hsettings : ∃ settings, theme allowUnknown settings = .ok look := by
    rcases h with hsettings | ⟨reader, files, folder, overlay, hload⟩
    · exact hsettings
    · exact theme_of_load hload
  obtain ⟨settings, htheme⟩ := hsettings
  have hlook := isWellFormed_of_theme htheme
  exact ⟨hlook, isWellFormed_plain_iff hlook⟩

/-- A theme whose color for territories has a line feed behind it. -/
def lineFeedTheme : Theme := { minimalTheme with palette := ["#4e79a7\n"] }

/-- The settings that write it out are accepted, so the theme is well formed but for the line feed. -/
theorem accepted_lineFeedTheme_isWellFormed :
    theme false (written lineFeedTheme) = .ok lineFeedTheme ∧
      lineFeedTheme.IsWellFormed IsColorLine := by
  have htheme : theme false (written lineFeedTheme) = .ok lineFeedTheme := by decide +kernel
  exact ⟨htheme, (accepted_theme_isWellFormed false (Or.inl ⟨_, htheme⟩)).1⟩

/-- The color in these settings has eight characters and is none. -/
theorem lineFeed_accepted : theme false (written lineFeedTheme) = .ok lineFeedTheme ∧
    "#4e79a7\n" ∈ lineFeedTheme.palette ∧ ¬ lineFeedTheme.IsWellFormed IsPlainColor := by
  refine ⟨by decide +kernel, List.mem_singleton_self _, fun hplain => ?_⟩
  exact absurd (hplain.colors "#4e79a7\n" (by decide)).length_eq (by decide)

end Settings

end DistrictAtlas
