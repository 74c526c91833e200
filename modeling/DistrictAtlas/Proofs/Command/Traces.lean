import DistrictAtlas.Proofs.Command.Loading
import DistrictAtlas.Proofs.Files.Keeping

/-!
# Traces of a run

What a run leaves behind from one point of it to a later one. The log only grows and stays where it
is. Loading and logging leave no other trace: no file changes except the one of the log, and nothing
is put out.
-/

namespace DistrictAtlas

namespace Scene

/-- The log of the scene lies at a place. -/
def LogsAt (scene : Scene) (place : List String) : Prop :=
  ∃ path, scene.logPath = some path ∧ scene.files.locate path = .ok place

/-- A scene is followed by a later one of the same run. -/
structure Continues (scene later : Scene) : Prop where
  /-- The least level stayed. -/
  least : later.least = scene.least
  /-- The log stayed where it is. -/
  logPath : later.logPath = scene.logPath
  /-- What was logged stayed, and more may have come. -/
  logged : scene.logged <+: later.logged

/-- A scene is followed by a later one, and between them no trace was left but in the log. -/
structure OnlyLogs (scene later : Scene) : Prop extends Continues scene later where
  /-- Nothing was put out. -/
  output : later.output = scene.output
  /-- All files stayed except the one of the log. -/
  files : Files.KeepsBut scene.files later.files later.LogsAt
  /-- No directories were made. -/
  directories : Files.KeepsDirectories later.files scene.files
  /-- Without a file for the log nothing changed at all. -/
  unlogged : scene.logPath = none → later.files = scene.files

/-- A scene became another, and nothing was put out and no file changed except the one of the log,
which may have been opened in between. -/
structure KeepsButLog (scene later : Scene) : Prop where
  /-- Nothing was put out. -/
  output : later.output = scene.output
  /-- All files stayed except the one of the log. -/
  files : Files.KeepsBut scene.files later.files later.LogsAt

namespace Continues

variable {scene later last : Scene}

/-- A scene follows itself. -/
theorem refl (scene : Scene) : Continues scene scene :=
  ⟨rfl, rfl, List.prefix_refl _⟩

/-- What follows a later scene follows the first one. -/
theorem trans (h : Continues scene later) (hlast : Continues later last) :
    Continues scene last :=
  ⟨hlast.least.trans h.least, hlast.logPath.trans h.logPath, h.logged.trans hlast.logged⟩

end Continues

namespace OnlyLogs

variable {scene later last : Scene}

/-- The log lies where it lay. -/
theorem logsAt (h : OnlyLogs scene later) {place : List String} (hplace : scene.LogsAt place) :
    later.LogsAt place := by
  obtain ⟨path, hpath, hlocate⟩ := hplace
  exact ⟨path, h.logPath.trans hpath, h.files.directories.locate hlocate⟩

/-- A scene that stays leaves no trace. -/
theorem refl (scene : Scene) : OnlyLogs scene scene :=
  ⟨.refl scene, rfl, .refl _ _, .refl _, fun _ => rfl⟩

/-- Two stretches of a run that only log do so together. -/
theorem trans (h : OnlyLogs scene later) (hlast : OnlyLogs later last) :
    OnlyLogs scene last where
  toContinues := h.toContinues.trans hlast.toContinues
  output := hlast.output.trans h.output
  files := (h.files.mono fun _ => hlast.logsAt).trans hlast.files
  directories := hlast.directories.trans h.directories
  unlogged hnone := (hlast.unlogged (h.logPath.trans hnone)).trans (h.unlogged hnone)

/-- What is read of a file is what was read before if the log does not lie there. -/
theorem read (h : OnlyLogs scene later) {path : Path} {bytes : Bytes}
    (hfree : ∀ place, scene.files.locate path = .ok place → ¬scene.LogsAt place)
    (hread : later.files.read path = .ok bytes) : scene.files.read path = .ok bytes := by
  obtain ⟨place, hlocate, hbytes⟩ := Files.read_eq_ok_iff.mp hread
  have hbefore := h.directories.locate hlocate
  have hlog : ¬later.LogsAt place := by
    rintro ⟨log, hpath, hplace⟩
    exact hfree place hbefore ⟨log, h.logPath.symm.trans hpath, h.directories.locate hplace⟩
  rw [h.files.bytes place hlog] at hbytes
  exact Files.read_eq_ok_iff.mpr ⟨place, hbefore, hbytes⟩

end OnlyLogs

/-- What only logs keeps all but the log. -/
theorem KeepsButLog.trans {scene later last : Scene} (h : KeepsButLog scene later)
    (hlast : OnlyLogs later last) : KeepsButLog scene last :=
  ⟨hlast.output.trans h.output, (h.files.mono fun _ => hlast.logsAt).trans hlast.files⟩

/-- A line more in the log changes no other file. -/
theorem keepsBut_filesWithLine (scene : Scene) (event : Event) :
    Files.KeepsBut scene.files (scene.filesWithLine event)
      { scene with files := scene.filesWithLine event }.LogsAt := by
  unfold filesWithLine
  cases hpath : scene.logPath with
  | none => exact .refl _ _
  | some path =>
    dsimp only
    cases hupdate : scene.files.update path fun bytes =>
        bytes ++ Utf8.encode (event.line scene.stamp ++ "\n") with
    | error fault => exact .refl _ _
    | ok changed =>
      obtain ⟨place, hlocate, -, hkeeps⟩ := Files.keepsBut_of_update hupdate
      refine hkeeps.mono fun other hother => ?_
      rw [hother]
      exact ⟨path, rfl, hlocate⟩

/-- A line more in the log makes no directories. -/
theorem keepsDirectories_filesWithLine (scene : Scene) (event : Event) :
    Files.KeepsDirectories (scene.filesWithLine event) scene.files := by
  unfold filesWithLine
  cases scene.logPath with
  | none => exact .refl _
  | some path =>
    dsimp only
    cases hupdate : scene.files.update path fun bytes =>
        bytes ++ Utf8.encode (event.line scene.stamp ++ "\n") with
    | error fault => exact .refl _
    | ok changed => exact Files.keepsDirectories_of_update hupdate

/-- Logging an event leaves no other trace. -/
theorem onlyLogs_log (scene : Scene) (event : Event) : OnlyLogs scene (scene.log event) := by
  unfold log
  split
  · refine ⟨⟨rfl, rfl, List.prefix_append _ _⟩, rfl, keepsBut_filesWithLine scene event,
      keepsDirectories_filesWithLine scene event, fun hnone => ?_⟩
    dsimp only [filesWithLine]
    rw [hnone]
  · exact .refl scene

/-- Logging events leaves no other trace. -/
theorem onlyLogs_logAll (scene : Scene) (events : List Event) :
    OnlyLogs scene (scene.logAll events) := by
  unfold logAll
  induction events generalizing scene with
  | nil => exact .refl scene
  | cons event rest ih => exact (onlyLogs_log scene event).trans (ih (scene.log event))

/-- An event that is kept comes behind what was logged. -/
theorem logged_log {scene : Scene} {event : Event} (h : event.isKept scene.least = true) :
    (scene.log event).logged = scene.logged ++ [event] := by
  rw [log, if_pos h]

end Scene

/-- What two steps leave behind in turn, they leave behind together. -/
theorem Step.andThen_scene {α β : Type} (Leaves : Scene → Scene → Prop)
    (htrans : ∀ {a b c}, Leaves a b → Leaves b c → Leaves a c) {scene : Scene} {step : Step α}
    {next : Scene → α → Step β} (hstep : Leaves scene step.scene)
    (hnext : ∀ value, step.result = .ok value → Leaves step.scene (next step.scene value).scene) :
    Leaves scene (step.andThen next).scene := by
  unfold Step.andThen
  cases hresult : step.result with
  | ok value => exact htrans hstep (hnext value hresult)
  | error failure => exact hstep

namespace Scene

/-- What becomes of the network is no trace. -/
theorem onlyLogs_network (scene : Scene) (network : Network) :
    OnlyLogs scene { scene with network } :=
  ⟨⟨rfl, rfl, List.prefix_refl _⟩, rfl, .refl _ _, .refl _, fun _ => rfl⟩

/-- Reading the areas leaves no trace but in the log. -/
theorem onlyLogs_readAreas (scene : Scene) (atlas : Atlas) (location : String) :
    OnlyLogs scene (scene.readAreas atlas location).scene := by
  have hnetwork := onlyLogs_network scene
    (atlas.areas scene.host.library scene.files location scene.network).network
  unfold readAreas
  dsimp only
  cases (atlas.areas scene.host.library scene.files location scene.network).result with
  | error failure => exact hnetwork
  | ok areas => exact hnetwork.trans (onlyLogs_logAll _ areas.events)

/-- Loading a table leaves no trace but in the log. -/
theorem onlyLogs_reload (scene : Scene) (atlas : Atlas) (text : String) :
    OnlyLogs scene (scene.reload atlas text).scene :=
  onlyLogs_logAll scene _

/-- Loading leaves no trace but in the log. -/
theorem onlyLogs_load (scene : Scene) (arguments : Arguments) :
    OnlyLogs scene (scene.load arguments).scene := by
  have htable : OnlyLogs scene (scene.withTable arguments) := onlyLogs_network scene _
  rcases load_cases scene arguments with ⟨failure, -, hload⟩ | ⟨theme, failure, -, -, hload⟩ |
    ⟨theme, text, -, -, hload⟩
  · rw [hload]
    exact .refl scene
  · rw [hload]
    exact htable
  · rw [hload]
    exact htable.trans (onlyLogs_reload _ _ text)

end Scene

namespace Arguments

/-- The scene in which the program begins to load: the level is set and the log is open. -/
def started? (arguments : Arguments) (scene : Scene) : Option Scene :=
  match arguments.options.logLevel with
  | none => none
  | some level =>
    let scene := { scene with least := level }
    match arguments.options.logFile.text? with
    | none => some scene
    | some file => (scene.openLog (Path.read file)).toOption

/-- A run is the run from its start, and without a start it leaves everything as it is, except for
the least level. -/
theorem run_eq (arguments : Arguments) (scene : Scene) :
    (∃ started, arguments.started? scene = some started ∧
        arguments.run scene = arguments.runLogged started) ∨
      (arguments.started? scene = none ∧ ∃ least,
        arguments.run scene = ⟨.failure, { scene with least }⟩) := by
  unfold run started?
  cases arguments.options.logLevel with
  | none => exact Or.inr ⟨rfl, scene.least, rfl⟩
  | some level =>
    dsimp only
    cases arguments.options.logFile.text? with
    | none => exact Or.inl ⟨_, rfl, rfl⟩
    | some file =>
      dsimp only
      cases hopen : { scene with least := level }.openLog (Path.read file) with
      | error failure => exact Or.inr ⟨rfl, level, rfl⟩
      | ok opened => exact Or.inl ⟨opened, rfl, rfl⟩

/-- Opening the log changes no file but the one of the log. -/
theorem keepsButLog_started {arguments : Arguments} {scene started : Scene}
    (h : arguments.started? scene = some started) : scene.KeepsButLog started := by
  unfold started? at h
  cases hlevel : arguments.options.logLevel with
  | none =>
    rw [hlevel] at h
    cases h
  | some level =>
    rw [hlevel] at h
    dsimp only at h
    cases hfile : arguments.options.logFile.text? with
    | none =>
      rw [hfile] at h
      cases h
      exact ⟨rfl, .refl _ _⟩
    | some file =>
      rw [hfile] at h
      dsimp only [Scene.openLog] at h
      cases hopen : scene.files.openForAppend (Path.read file) with
      | error fault =>
        rw [hopen] at h
        cases h
      | ok opened =>
        rw [hopen] at h
        cases h
        obtain ⟨place, hlocate, hkeeps⟩ := Files.keepsBut_of_openForAppend hopen
        refine ⟨rfl, hkeeps.mono fun other hother => ?_⟩
        rw [hother]
        exact ⟨_, rfl, hlocate⟩

end Arguments

end DistrictAtlas
