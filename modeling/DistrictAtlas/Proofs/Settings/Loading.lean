import DistrictAtlas.Fetch.Source
import DistrictAtlas.Proofs.Files.Keeping
import DistrictAtlas.Proofs.Outcome
import DistrictAtlas.Proofs.Text.Utf8
import DistrictAtlas.Rules.Palette
import DistrictAtlas.Settings.Loading

/-!
# Settings and tables from their texts

What is loaded from a file that a text was written to depends on the text only: the bytes of a text
decode to it, and a file that can be read is there.
-/

namespace DistrictAtlas

/-- The text of a table in a file is the text that was written there. -/
theorem Source.tableFile_of_read {files : Files} {path : Path} {text : String}
    (h : files.read path = .ok (Utf8.encode text)) : tableFile files path = .ok text := by
  have htext : fileText files path = .ok text := by
    rw [fileText, h]
    exact congrArg (Except.mapError Failure.encoding) (Utf8.decode_encode text)
  unfold tableFile
  rw [Files.hasPath_of_read h]
  exact htext

namespace Settings

/-- The theme that a text of settings describes. -/
def ofText (allowUnknown : Bool) (text : String) : Except Failure Theme := do
  let settings ←
    (Yaml.read (Yaml.Supply.ofChars (Text.withLineFeeds text).toList)).mapError .yaml
  (theme allowUnknown settings).mapError .settings

/-- The document in a file is what the reader makes of its bytes. -/
theorem documentIn_of_read {reader : Reader} {files : Files} {path : Path} {bytes : Bytes}
    (h : files.read path = .ok bytes) :
    documentIn reader files path = (reader bytes).mapError .yaml := by
  rw [documentIn, h]
  rfl

/-- Settings in a file that can be read are the document in it. -/
theorem base_of_read {reader : Reader} {files : Files} {path : Path} {bytes : Bytes}
    (h : files.read path = .ok bytes) :
    base reader files path = (reader bytes).mapError .yaml := by
  rw [base, Files.hasPath_of_read h, ← documentIn_of_read h]
  rfl

/-- An overlay in a file that can be read is the document in it. -/
theorem overlayAt_of_read {reader : Reader} {files : Files} {path : Path} {bytes : Bytes}
    (h : files.read path = .ok bytes) :
    overlayAt reader files (some path) = (reader bytes).mapError .yaml := by
  rw [overlayAt, Files.hasPath_of_read h, ← documentIn_of_read h]
  rfl

/-- The usual reader takes the bytes of a text for this text. -/
theorem standard_encode (text : String) : Reader.standard (Utf8.encode text) =
    Yaml.read (Yaml.Supply.ofChars (Text.withLineFeeds text).toList) := by
  rw [Reader.standard, Yaml.Supply.ofBytes, Utf8.decode_encode]

/-- Settings in a file are those that its text describes. -/
theorem load_of_read {files : Files} {folder : Path} {text : String}
    (h : files.read (folder.child fileName) = .ok (Utf8.encode text)) (allowUnknown : Bool) :
    load .standard files folder none allowUnknown = ofText allowUnknown text := by
  unfold load document ofText
  rw [base_of_read h, standard_encode]
  cases (Yaml.read (Yaml.Supply.ofChars (Text.withLineFeeds text).toList)).mapError
    Failure.yaml <;> rfl

/-- The theme that the characters of settings describe. -/
theorem ofText_ofList (allowUnknown : Bool) (cs : List Char) :
    ofText allowUnknown (String.ofList cs) =
      (Yaml.read (Yaml.Supply.ofChars (cs.foldl Text.BreakChange.step {}).done.reverse)).mapError
        .yaml >>= fun settings => (theme allowUnknown settings).mapError .settings := by
  unfold ofText Text.withLineFeeds
  rw [String.toList_ofList, String.toList_ofList]

/-- Settings that say no more than they have to. -/
def minimalText : String :=
  "\x7bcode_property: n, palette: ['#59a14f'],
    colors: \x7bunmatched: '#dddddd', fallback: '#cccccc', base: '#cccccc'\x7d,
    opacity: \x7bnormal: 1, dimmed: 0\x7d, areas: \x7bfallback: []\x7d,
    popup: \x7bmax_tokens: 1\x7d\x7d"

/-- The palette that they describe. -/
def minimalPalette : Palette := ⟨["#59a14f"], List.cons_ne_nil _ _⟩

/-- The theme that they describe. -/
def minimalTheme : Theme :=
  { codeProperty := .whole "n", palette := minimalPalette.colors, normalOpacity := Binary64.ofInt 1,
    dimmedOpacity := Binary64.ofInt 0, fallbackAreas := [], shownTokens := 1 }

set_option maxRecDepth 2000 in
/-- The shortest settings are settings. -/
theorem ofText_minimalText : ofText false minimalText = .ok minimalTheme := by
  -- a literal is a list of characters, and evaluation does not have to decode its bytes then
  have hchars : minimalText = String.ofList _ := rfl
  rw [hchars, ofText_ofList]
  decide +kernel

end Settings

end DistrictAtlas
