import DistrictAtlas.Atlas
import DistrictAtlas.Command.Arguments
import DistrictAtlas.Settings.Loading

/-!
# The scene of a run

What a run of the program works on: files, the network, the log and the output. The log goes to the
error stream and, if one is named, to a file, line by line as things happen. How settings and documents
are read belongs to the host that the program runs on.
-/

namespace DistrictAtlas

/-- What the program relies on. -/
structure Host where
  /-- How settings files are read. -/
  settings : Settings.Reader
  /-- How requests are made and documents are read. -/
  library : Library

/-- The host that the program usually runs on. -/
def Host.standard : Host := ⟨Settings.Reader.standard, Library.standard⟩

/-- What a run works on and leaves behind. -/
structure Scene where
  /-- The files. -/
  files : Files
  /-- What comes of the next requests. -/
  network : Network
  /-- The file of the log. -/
  logPath : Option Path := none
  /-- The least level of events to log. -/
  least : Level := .info
  /-- The time that log lines bear. -/
  stamp : String := ""
  /-- The events logged, in order. -/
  logged : List Event := []
  /-- The text written to the output. -/
  output : String := ""
  /-- What the run relies on. -/
  host : Host := .standard

namespace Scene

/-- The files after a line of the log was added. -/
def filesWithLine (scene : Scene) (event : Event) : Files :=
  match scene.logPath with
  | none => scene.files
  | some path =>
    let line := Utf8.encode (event.line scene.stamp ++ "\n")
    match scene.files.update path fun bytes => bytes ++ line with
    | .ok files => files
    | .error _ => scene.files

/-- Logs an event, if its level is not too low. -/
def log (scene : Scene) (event : Event) : Scene :=
  if event.isKept scene.least then
    { scene with logged := scene.logged ++ [event], files := scene.filesWithLine event }
  else scene

/-- Logs events one after the other. -/
def logAll (scene : Scene) (events : List Event) : Scene :=
  events.foldl log scene

/-- Writes a text to the output. -/
def print (scene : Scene) (text : String) : Scene :=
  { scene with output := scene.output ++ text }

/-- Opens the log. -/
def openLog (scene : Scene) (path : Path) : Except Failure Scene := do
  let files ← (scene.files.openForAppend path).mapError .file
  return { scene with files, logPath := some path }

/-- Logging writes nothing to the output. -/
@[simp] theorem log_output (scene : Scene) (event : Event) :
    (scene.log event).output = scene.output := by
  unfold log
  split <;> rfl

/-- Logging makes no request. -/
@[simp] theorem log_network (scene : Scene) (event : Event) :
    (scene.log event).network = scene.network := by
  unfold log
  split <;> rfl

/-- Logging leaves what a run relies on. -/
@[simp] theorem log_host (scene : Scene) (event : Event) : (scene.log event).host = scene.host := by
  unfold log
  split <;> rfl

end Scene

end DistrictAtlas
