import DistrictAtlas.Command.Scene
import DistrictAtlas.Report.Inspection
import DistrictAtlas.Settings.Loading

/-!
# Running a command

A run opens its log, loads the settings and the territories, carries out the command, and ends with an
exit code. Nothing is printed before the whole answer is there. A failure is logged, except one that
nobody foresaw before the command began. Odd rows make a difference to the exit code only, and only in
a strict run.
-/

namespace DistrictAtlas

/-- How a run ends. -/
inductive Exit where
  /-- All went well. -/
  | success
  /-- All went well, but there were odd rows in a strict run. -/
  | oddRows
  /-- The run failed. -/
  | failure
deriving DecidableEq, Repr

/-- The exit code of a run. -/
def Exit.code : Exit → Nat
  | success => 0
  | oddRows => 10
  | failure => 20

/-- The scene after a step, and what the step gave. -/
structure Step (α : Type) where
  /-- The scene. -/
  scene : Scene
  /-- What the step gave, or why it gave nothing. -/
  result : Except Failure α

/-- Goes on with what a step gave. -/
def Step.andThen {α β : Type} (step : Step α) (next : Scene → α → Step β) : Step β :=
  match step.result with
  | .ok value => next step.scene value
  | .error failure => ⟨step.scene, .error failure⟩

namespace Scene

/-- A step that leaves the scene as it is. -/
def still {α : Type} (scene : Scene) (result : Except Failure α) : Step α := ⟨scene, result⟩

/-- Reads the table at a location. -/
def readTable (scene : Scene) (location : String) : Step String :=
  let fetched := Source.table scene.host.library scene.files {} location scene.network
  ⟨{ scene with network := fetched.network }, fetched.result⟩

/-- Reads the postcode areas that are listed at a location. -/
def readAreas (scene : Scene) (atlas : Atlas) (location : String) : Step (List Wording) :=
  let fetched := atlas.areas scene.host.library scene.files location scene.network
  let scene := { scene with network := fetched.network }
  match fetched.result with
  | .error failure => ⟨scene, .error failure⟩
  | .ok areas => ⟨scene.logAll areas.events, .ok areas.names⟩

/-- Loads a table into an atlas. -/
def reload (scene : Scene) (atlas : Atlas) (text : String) : Step Atlas :=
  let reloaded := atlas.reload text
  ⟨scene.logAll reloaded.events,
    match reloaded.failure with
    | some failure => .error failure
    | none => .ok reloaded.atlas⟩

/-- Loads the settings and the territories that are asked for. -/
def load (scene : Scene) (arguments : Arguments) : Step Atlas :=
  let options := arguments.options
  let overlay := options.overlayConfigDir.text?.map Path.read
  let settings := match options.configDir with
    | none => .error .noFolder
    | some folder => Settings.load scene.host.settings scene.files (Path.read folder) overlay false
  (scene.still settings).andThen
    fun scene theme => (scene.readTable arguments.location).andThen
      fun scene text => scene.reload { theme } text

/-- The codes in a file, one on a line. -/
def codesIn (files : Files) (path : Path) : Except Failure (List String) := do
  let text ← Source.fileText files path
  return (Text.lines text).map Text.trim

/-- The codes that are asked for, blank ones left out. -/
def codes (scene : Scene) (arguments : Arguments) : Except Failure (List String) := do
  let listed ← match arguments.options.codesFile.text? with
    | none => pure []
    | some file => codesIn scene.files (Path.read file)
  return (arguments.codes ++ listed).filter fun code => !Text.isBlankText code

/-- Writes a text to a file. -/
def save (scene : Scene) (file text : String) : Step Unit :=
  match scene.files.write (Path.read file) text with
  | .error fault => ⟨scene, .error (.file fault)⟩
  | .ok files => ⟨{ scene with files }, .ok ()⟩

/-- Writes a document to a file. When a number or a torn text stops the writing, what came before it
stays in the file. -/
def saveDocument (scene : Scene) (file : String) (document : Value) : Step Unit :=
  match Json.transcript document with
  | (text, none) => scene.save file (text ++ "\n")
  | (text, some hindrance) =>
    (scene.save file text).andThen fun scene _ => ⟨scene, .error (.ofHindrance hindrance)⟩

/-- Prints a document. -/
def printDocument (scene : Scene) (document : Value) : Step Unit :=
  match Json.render document with
  | .error hindrance => ⟨scene, .error (.ofHindrance hindrance)⟩
  | .ok text => ⟨scene.print (text ++ "\n"), .ok ()⟩

/-- Delivers a document to a file, or prints it. -/
def deliver (scene : Scene) (out : Option String) (document : Value) : Step Unit :=
  match out with
  | some file => scene.saveDocument file document
  | none => scene.printDocument document

/-- Delivers what the map makes of codes: a table in a file, or a printed document. -/
def classify (scene : Scene) (atlas : Atlas) (arguments : Arguments) : Step Unit :=
  (scene.still (scene.codes arguments)).andThen fun scene codes =>
    let rows := atlas.book.classify atlas.theme codes
    match arguments.options.out.text? with
    | some file => scene.save file (Classified.table rows)
    | none => scene.printDocument (.list (rows.map Classified.toValue))

/-- What there is to say about each of the codes. -/
def describeAll (atlas : Atlas) : List String → Except Digits.Refusal (List Description)
  | [] => .ok []
  | code :: rest => do
    let description ← atlas.describe code
    return description :: (← describeAll atlas rest)

/-- Delivers what there is to say about codes: a document in a file, or printed text. -/
def describe (scene : Scene) (atlas : Atlas) (arguments : Arguments) : Step Unit :=
  (scene.still (scene.codes arguments)).andThen fun scene codes =>
    (scene.still ((describeAll atlas codes).mapError .number)).andThen fun scene descriptions =>
      match arguments.options.out.text? with
      | some file => scene.saveDocument file (.list (descriptions.map Description.toValue))
      | none =>
        let text := "\n\n".intercalate (descriptions.map Description.text)
        ⟨scene.print (text ++ "\n"), .ok ()⟩

/-- Delivers the fill of the map, with what is needed to use it when it goes to a file. -/
def style (scene : Scene) (atlas : Atlas) (arguments : Arguments) : Step Unit :=
  let out := arguments.options.out.text?
  let document :=
    if out.isSome then atlas.book.paintSheet atlas.theme else atlas.book.paint atlas.theme
  (scene.still (document.mapError .tree)).andThen fun scene document => scene.deliver out document

/-- Delivers what is known about the territories. -/
def inspect (scene : Scene) (atlas : Atlas) (arguments : Arguments) : Step Unit :=
  let out := arguments.options.out.text?
  match arguments.options.areasManifest.text? with
  | none => scene.deliver out (atlas.book.inspection none)
  | some location =>
    (scene.readAreas atlas location).andThen fun scene areas =>
      scene.deliver out (atlas.book.inspection (some areas))

/-- Carries out the command. -/
def execute (scene : Scene) (atlas : Atlas) (arguments : Arguments) : Step Unit :=
  match arguments.command with
  | .classify => scene.classify atlas arguments
  | .describe => scene.describe atlas arguments
  | .style => scene.style atlas arguments
  | .inspect => scene.inspect atlas arguments

end Scene

/-- What is left of a run. -/
structure Finished where
  /-- How it ended. -/
  exit : Exit
  /-- The scene at its end. -/
  scene : Scene

namespace Arguments

/-- The event at the beginning or end of a command. -/
def event (arguments : Arguments) (name message : String) : Event :=
  { stage := some arguments.command.name, name := some name, status := some "ok", message }

/-- How a run ends whose command was carried out. -/
def exitFor (arguments : Arguments) (book : Rulebook) : Exit :=
  if arguments.options.strict && book.notices.any (·.kind.isStrict) then .oddRows else .success

/-- Carries out the command on a loaded atlas. -/
def runLoaded (arguments : Arguments) (scene : Scene) (atlas : Atlas) : Finished :=
  let step := (scene.log (arguments.event "COMMAND_START" "command start")).execute atlas arguments
  match step.result with
  | .error failure =>
    ⟨.failure, step.scene.log
      (failure.event arguments.command.name "COMMAND_FAIL" "command failed: ")⟩
  | .ok () =>
    ⟨arguments.exitFor atlas.book,
      step.scene.log (arguments.event "COMMAND_END" "command end")⟩

/-- Loads what is needed and carries out the command; the log is open. -/
def runLogged (arguments : Arguments) (scene : Scene) : Finished :=
  let step := scene.load arguments
  match step.result with
  | .ok atlas => arguments.runLoaded step.scene atlas
  | .error failure =>
    ⟨.failure,
      if failure.isForeseen then step.scene.log (failure.event "load" "LOAD_FAIL" "load failed: ")
      else step.scene⟩

/-- Runs the program. Without a level there is no log, and nothing is done. -/
def run (arguments : Arguments) (scene : Scene) : Finished :=
  match arguments.options.logLevel with
  | none => ⟨.failure, scene⟩
  | some level =>
    let scene := { scene with least := level }
    match arguments.options.logFile.text? with
    | none => arguments.runLogged scene
    | some file =>
      match scene.openLog (Path.read file) with
      | .error _ => ⟨.failure, scene⟩
      | .ok scene => arguments.runLogged scene

end Arguments

end DistrictAtlas
