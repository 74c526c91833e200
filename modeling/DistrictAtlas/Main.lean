import DistrictAtlas.Command.Footprint
import Std.Time.Format

/-!
# The program

The program looks at the places in the footprint of its command line, runs the command on what it found
there, and then makes the changes that the run left behind. It has no way to reach a server, so requests
do not get through.
-/

namespace DistrictAtlas.Program

/-- What a wrong command line is answered with. -/
def usageLine : String :=
  "usage: classify|describe|style|inspect TERRITORIES [CODE ...] [--codes-file FILE] [--out FILE] " ++
    "[--areas-manifest LOCATION] [--config-dir DIR] [--overlay-config-dir DIR] " ++
    "[--log-level DEBUG|INFO|WARNING|ERROR] [--log-file FILE] [--strict]"

/-- The written form of a place. -/
def pathText (place : List String) : String :=
  "/" ++ "/".intercalate place

/-- The place of the working directory. -/
def homePlace : IO (List String) := do
  return (Path.read (← IO.currentDir).toString).names

/-- What lies at a place. -/
def contentAt (place : List String) : IO (Option Content) := do
  let path := (← IO.currentDir) / pathText place
  if ← path.isDir then return some .directory
  try return some (.file (← IO.FS.readBinFile path).toList)
  catch _ => return none

/-- The files at the places. -/
def filesAt (home : List String) (places : List (List String)) : IO Files := do
  let found ← places.filterMapM fun place => do
    return (← contentAt place).map (place, ·)
  return { home, entries := found.filter fun entry => !entry.1.isPrefixOf home }

/-- Makes a change at a place. -/
def makeChange : List String × Content → IO Unit
  | (place, .directory) => IO.FS.createDirAll (pathText place)
  | (place, .file bytes) => IO.FS.writeBinFile (pathText place) (ByteArray.mk bytes.toArray)

/-- The time as log lines bear it. -/
def stampNow : IO String := do
  let now := Std.Time.DateTime.ofTimestampWithZone (← Std.Time.Timestamp.now) Std.Time.TimeZone.UTC
  return now.format "uuuu-MM-dd'T'HH:mm:ss.SSS+00:00"

/-- Runs the command that the arguments ask for, and tells the exit code. -/
def runCommand (arguments : Arguments) : IO Nat := do
  let home ← homePlace
  let before ← filesAt home (arguments.footprint home)
  let stamp ← stampNow
  let finished := arguments.run
    { files := before, network := { silence := "no network" }, stamp }
  for event in finished.scene.logged do
    IO.eprintln (event.line stamp)
  (before.changes finished.scene.files).forM makeChange
  IO.print finished.scene.output
  return finished.exit.code

end DistrictAtlas.Program

open DistrictAtlas in
/-- Runs the program on the words of its command line. -/
def main (words : List String) : IO UInt32 := do
  match Arguments.read words with
  | .ok arguments => return UInt32.ofNat (← Program.runCommand arguments)
  | .error usage =>
    (if usage = .help then IO.println else IO.eprintln) Program.usageLine
    return UInt32.ofNat usage.exitCode
