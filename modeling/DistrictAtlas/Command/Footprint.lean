import DistrictAtlas.Command.Run

/-!
# The footprint of a run

The places at which a run may look, and what it changed at them. Both are known without running
anything else: a command line names its files, and a path passes the places on its way.
-/

namespace DistrictAtlas

namespace Path

/-- The places that the names pass from a place on, each one with the name that leads to it. -/
def trail (place : List String) : List String → List (List String)
  | [] => []
  | name :: rest =>
    let next := if name = ".." then place.dropLast else place ++ [name]
    next :: trail next rest

/-- The places that a path passes, its own last. -/
def places (home : List String) (path : Path) : List (List String) :=
  trail (if path.root = "" then home else []) path.names

end Path

namespace Arguments

/-- The paths that a run may look at. -/
def paths (arguments : Arguments) : List Path :=
  let options := arguments.options
  let files := [options.codesFile, options.out, options.areasManifest, options.logFile]
  let folders := options.configDir.toList ++ options.overlayConfigDir.text?.toList
  (arguments.location :: files.filterMap Given.text?).map Path.read ++
    folders.map fun folder => (Path.read folder).child Settings.fileName

/-- The places that a run may look at, each once. -/
def footprint (arguments : Arguments) (home : List String) : List (List String) :=
  (arguments.paths.flatMap (Path.places home)).eraseDups

end Arguments

namespace Files

/-- What is new or different in `after`, in the order in which it was first made. -/
def changes (before after : Files) : List (List String × Content) :=
  after.entries.filter fun (place, content) => Entries.get? place before.entries ≠ some content

end Files

end DistrictAtlas
