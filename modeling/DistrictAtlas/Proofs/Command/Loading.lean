import DistrictAtlas.Command.Run
import DistrictAtlas.Proofs.Outcome
import DistrictAtlas.Proofs.Rules.Coherence
import DistrictAtlas.Proofs.Settings.Loading

/-!
# What a run loads

A run loads settings, then a table, then what the table holds, and each of the three may fail. Why
it fails depends on the files and the network only, and a failure that nobody foresaw leaves nothing
in the log.
-/

namespace DistrictAtlas

namespace Rulebook

/-- A table whose records are known is loaded as the rulebook of these records. -/
theorem load_of_records {text : String} {records : List Record}
    (h : (Table.resolve text).toOption.map (·.records) = some records) (palette : Palette) :
    load palette.colors text = .ok ⟨ofRecords palette records, records.length⟩ := by
  unfold load
  cases hresolve : Table.resolve text with
  | error fault =>
    rw [hresolve] at h
    cases h
  | ok resolved =>
    rw [hresolve] at h
    cases h
    exact ofColors_palette palette resolved.records

/-- A rulebook that was loaded is coherent. -/
theorem isCoherent_of_load {colors : List String} {text : String} {loaded : LoadedBook}
    (h : load colors text = .ok loaded) : loaded.book.IsCoherent := by
  unfold load ofColors at h
  split at h
  · cases h
  · split at h
    · cases h
    · cases h
      exact isCoherent_ofRecords _ _

end Rulebook

namespace Scene

/-- The scene before a run that finds some files and has no network. -/
def offline (files : Files) : Scene :=
  { files, network := { silence := "no network" } }

/-- The theme that the settings describe. -/
def theme (scene : Scene) (arguments : Arguments) : Except Failure Theme :=
  match arguments.options.configDir with
  | none => .error .noFolder
  | some folder =>
    Settings.load scene.host.settings scene.files (Path.read folder)
      (arguments.options.overlayConfigDir.text?.map Path.read) false

/-- The text of the table. -/
def tableText (scene : Scene) (arguments : Arguments) : Except Failure String :=
  (Source.table scene.host.library scene.files {} arguments.location scene.network).result

/-- The scene after the table was read. -/
def withTable (scene : Scene) (arguments : Arguments) : Scene :=
  { scene with network :=
      (Source.table scene.host.library scene.files {} arguments.location scene.network).network }

/-- Loading takes the theme first, then the table, then what the table holds. -/
theorem load_eq (scene : Scene) (arguments : Arguments) :
    scene.load arguments = (scene.still (scene.theme arguments)).andThen
      fun scene theme => (scene.readTable arguments.location).andThen
        fun scene text => scene.reload { theme } text :=
  rfl

/-- Loading ends with the settings, with the table, or with what the table holds. -/
theorem load_cases (scene : Scene) (arguments : Arguments) :
    (∃ failure, scene.theme arguments = .error failure ∧
        scene.load arguments = ⟨scene, .error failure⟩) ∨
      (∃ theme failure, scene.theme arguments = .ok theme ∧
        scene.tableText arguments = .error failure ∧
        scene.load arguments = ⟨scene.withTable arguments, .error failure⟩) ∨
      ∃ theme text, scene.theme arguments = .ok theme ∧ scene.tableText arguments = .ok text ∧
        scene.load arguments = (scene.withTable arguments).reload { theme } text := by
  rw [load_eq]
  cases htheme : scene.theme arguments with
  | error failure => exact Or.inl ⟨failure, rfl, rfl⟩
  | ok theme =>
    have htable : (scene.readTable arguments.location).result = scene.tableText arguments := rfl
    cases htext : scene.tableText arguments with
    | error failure =>
      refine Or.inr (Or.inl ⟨theme, failure, rfl, rfl, ?_⟩)
      dsimp only [Step.andThen, still]
      rw [htable, htext]
      rfl
    | ok text =>
      refine Or.inr (Or.inr ⟨theme, text, rfl, rfl, ?_⟩)
      dsimp only [Step.andThen, still]
      rw [htable, htext]
      rfl

/-- The atlas that the settings and the table make. -/
def atlas (scene : Scene) (arguments : Arguments) : Except Failure Atlas := do
  let theme ← scene.theme arguments
  let text ← scene.tableText arguments
  let loaded ← Rulebook.load theme.palette text
  return { theme, book := loaded.book }

/-- Loading gives the atlas that the settings and the table make. -/
theorem load_result (scene : Scene) (arguments : Arguments) :
    (scene.load arguments).result = scene.atlas arguments := by
  unfold atlas
  rcases load_cases scene arguments with ⟨failure, htheme, hload⟩ |
    ⟨theme, failure, htheme, htext, hload⟩ | ⟨theme, text, htheme, htext, hload⟩
  · rw [hload, htheme]
    rfl
  · rw [hload, htheme, htext]
    rfl
  · rw [hload, htheme, htext]
    dsimp only [reload, Atlas.reload, bind, Except.bind]
    cases Rulebook.load theme.palette text with
    | error failure => rfl
    | ok loaded => rfl

/-- A table whose loading fails unforeseen leaves nothing in the log. -/
theorem reload_scene_of_unforeseen {scene : Scene} {atlas : Atlas} {text : String}
    {failure : Failure} (h : (scene.reload atlas text).result = .error failure)
    (hunforeseen : failure.isForeseen = false) : (scene.reload atlas text).scene = scene := by
  unfold reload Atlas.reload at h ⊢
  cases hload : Rulebook.load atlas.theme.palette text with
  | ok loaded =>
    rw [hload] at h
    cases h
  | error other =>
    rw [hload] at h
    cases h
    dsimp only [Atlas.failureEvents]
    rw [hunforeseen, if_neg Bool.false_ne_true]
    rfl

/-- What fails unforeseen while loading leaves nothing in the log. -/
theorem load_logged_of_unforeseen {scene : Scene} {arguments : Arguments} {failure : Failure}
    (h : (scene.load arguments).result = .error failure)
    (hunforeseen : failure.isForeseen = false) :
    (scene.load arguments).scene.logged = scene.logged := by
  rcases load_cases scene arguments with ⟨other, -, hload⟩ | ⟨theme, other, -, -, hload⟩ |
    ⟨theme, text, -, -, hload⟩
  · rw [hload]
  · rw [hload]
    rfl
  · rw [hload] at h ⊢
    rw [reload_scene_of_unforeseen h hunforeseen]
    rfl

/-- The atlas that is loaded has a coherent rulebook. -/
theorem isCoherent_of_atlas {scene : Scene} {arguments : Arguments} {atlas : Atlas}
    (h : scene.atlas arguments = .ok atlas) : atlas.book.IsCoherent := by
  obtain ⟨theme, -, htheme⟩ := Outcome.bind_eq_ok_iff.mp h
  obtain ⟨text, -, htext⟩ := Outcome.bind_eq_ok_iff.mp htheme
  obtain ⟨loaded, hload, hatlas⟩ := Outcome.bind_eq_ok_iff.mp htext
  cases hatlas
  exact Rulebook.isCoherent_of_load hload

/-- Settings in the only folder of settings are those that their text describes, where they are read
as usual. -/
theorem theme_of_read {scene : Scene} {arguments : Arguments} {folder text : String}
    (hhost : scene.host.settings = .standard) (hfolder : arguments.options.configDir = some folder)
    (hoverlay : arguments.options.overlayConfigDir.text? = none)
    (hread : scene.files.read ((Path.read folder).child Settings.fileName) =
      .ok (Utf8.encode text)) :
    scene.theme arguments = Settings.ofText false text := by
  unfold theme
  rw [hfolder, hoverlay, hhost]
  exact Settings.load_of_read hread false

/-- A table in a file is the text that was written there. -/
theorem tableText_of_read {scene : Scene} {arguments : Arguments} {text : String}
    (hfile : Location.isAddress arguments.location = .ok false)
    (hread : scene.files.read (Path.read arguments.location) = .ok (Utf8.encode text)) :
    scene.tableText arguments = .ok text := by
  unfold tableText Source.table
  rw [hfile]
  exact Source.tableFile_of_read hread

/-- Shortest settings in their usual place, and a table. -/
def besideMinimalSettings (table : String) : Scene :=
  offline (Files.ofList [("config/style.yml", some (Utf8.encode Settings.minimalText)),
    ("t.csv", some (Utf8.encode table))])

/-- Beside them there is room for an answer. -/
theorem write_besideMinimalSettings (table text : String) : ∃ written,
    (besideMinimalSettings table).files.write (Path.read "out.json") text = .ok written :=
  ⟨_, rfl⟩

end Scene

/-- A command line that takes the settings as they are and names the table. -/
structure Arguments.IsPlain (arguments : Arguments) : Prop where
  /-- The settings are in their usual place. -/
  folder : arguments.options.configDir = some "./config"
  /-- Nothing is laid over them. -/
  overlay : arguments.options.overlayConfigDir.text? = none
  /-- The table is named. -/
  table : arguments.territories = some "t.csv"

namespace Scene

variable {arguments : Arguments} (harguments : arguments.IsPlain)

include harguments

/-- The shortest settings are loaded. -/
theorem theme_besideMinimalSettings (table : String) :
    (besideMinimalSettings table).theme arguments = .ok Settings.minimalTheme := by
  have hread : (besideMinimalSettings table).files.read
      ((Path.read "./config").child Settings.fileName) =
        .ok (Utf8.encode Settings.minimalText) := rfl
  rw [theme_of_read rfl harguments.folder harguments.overlay hread, Settings.ofText_minimalText]

/-- The table beside the shortest settings is loaded. -/
theorem tableText_besideMinimalSettings (table : String) :
    (besideMinimalSettings table).tableText arguments = .ok table := by
  have hlocation : arguments.location = "t.csv" := by
    rw [Arguments.location, harguments.table]
    rfl
  have hfile : Location.isAddress arguments.location = .ok false := by
    rw [hlocation]
    decide +kernel
  have hread : (besideMinimalSettings table).files.read (Path.read arguments.location) =
      .ok (Utf8.encode table) := by
    rw [hlocation]
    rfl
  exact tableText_of_read hfile hread

/-- The atlas that the shortest settings and a table make. -/
theorem atlas_besideMinimalSettings {table : String} {loaded : LoadedBook}
    (hload : Rulebook.load Settings.minimalTheme.palette table = .ok loaded) :
    (besideMinimalSettings table).atlas arguments =
      .ok { theme := Settings.minimalTheme, book := loaded.book } := by
  unfold atlas
  rw [theme_besideMinimalSettings harguments, tableText_besideMinimalSettings harguments]
  dsimp only [bind, Except.bind]
  rw [hload]
  rfl

end Scene

end DistrictAtlas
