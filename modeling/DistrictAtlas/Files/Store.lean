import DistrictAtlas.Entries
import DistrictAtlas.Files.Path
import DistrictAtlas.Text.Quoted
import DistrictAtlas.Text.Utf8

/-!
# Files

A store of files and directories, and what can be done with it: asking what lies at a path, reading a
file, making directories, and writing a file. Following a path needs a directory at every step, and a
double dot leads back up. Each operation that fails says why and at which path.
-/

namespace DistrictAtlas

/-- What lies at a place. -/
inductive Content where
  /-- A file with its bytes. -/
  | file (bytes : Bytes)
  /-- A directory. -/
  | directory
deriving DecidableEq, Repr

/-- Why an operation on files failed. -/
inductive FileProblem where
  /-- There is nothing. -/
  | notFound
  /-- There is something already. -/
  | exists
  /-- A directory is needed on the way. -/
  | notDirectory
  /-- It is a directory. -/
  | isDirectory
  /-- The path, or a name on the way, is too long. -/
  | nameTooLong
  /-- A name on the way holds the null character. -/
  | nullCharacter
  /-- Too many directories on the way are missing. -/
  | tooDeep
deriving DecidableEq, Repr

/-- A failed operation on files. -/
structure FileFault where
  /-- Why it failed. -/
  problem : FileProblem
  /-- The path in question. -/
  path : Path
deriving DecidableEq, Repr

namespace FileFault

/-- The wording of a fault. -/
def message (fault : FileFault) : String :=
  let place := ": " ++ Text.quote fault.path.text
  match fault.problem with
  | .notFound => "[Errno 2] No such file or directory" ++ place
  | .exists => "[Errno 17] File exists" ++ place
  | .notDirectory => "[Errno 20] Not a directory" ++ place
  | .isDirectory => "[Errno 21] Is a directory" ++ place
  | .nameTooLong => "[Errno 36] File name too long" ++ place
  | .nullCharacter => "embedded null byte"
  | .tooDeep => "maximum recursion depth exceeded while calling a Python object"

/-- The name of a fault's kind. -/
def kind (fault : FileFault) : String :=
  match fault.problem with
  | .notFound => "FileNotFoundError"
  | .exists => "FileExistsError"
  | .notDirectory => "NotADirectoryError"
  | .isDirectory => "IsADirectoryError"
  | .nameTooLong => "OSError"
  | .nullCharacter => "ValueError"
  | .tooDeep => "RecursionError"

end FileFault

/-- Files and directories by the names that lead to them from the root. -/
structure Files where
  /-- The working directory. -/
  home : List String := ["home"]
  /-- All files and directories except the root and the working directory with those above it. -/
  entries : List (List String × Content) := []
deriving Repr

namespace Files

/-- What lies at a place that is given by the names from the root, without double dots. -/
def at? (files : Files) (place : List String) : Option Content :=
  if place.isPrefixOf files.home then some .directory else Entries.get? place files.entries

/-- The greatest number of bytes of a name. -/
def nameLimit : Nat := 255

/-- The place of a name in the directory at a place. -/
def inside (place : List String) (name : String) : Except FileProblem (List String) :=
  if name = ".." then .ok place.dropLast
  else if nameLimit < (Utf8.encode name).length then .error .nameTooLong
  else .ok (place ++ [name])

/-- Follows names from a place; every step but the last has to end at a directory, and the place
reached may be empty. -/
def follow (files : Files) (place : List String) : List String → Except FileProblem (List String)
  | [] => .ok place
  | name :: rest =>
    match files.at? place with
    | none => .error .notFound
    | some (.file _) => .error .notDirectory
    | some .directory =>
      match inside place name with
      | .error problem => .error problem
      | .ok place => follow files place rest

/-- The number of bytes that a written path has to stay below. -/
def pathLimit : Nat := 4096

/-- The place that a path leads to; there may be nothing there. -/
def locate (files : Files) (path : Path) : Except FileProblem (List String) :=
  if path.names.any fun name => name.toList.contains (Char.ofNat 0) then .error .nullCharacter
  else if pathLimit ≤ (Utf8.encode path.text).length then .error .nameTooLong
  else follow files (if path.root = "" then files.home else []) path.names

/-- What lies at a path. -/
def find (files : Files) (path : Path) : Except FileProblem Content :=
  match files.locate path with
  | .error problem => .error problem
  | .ok place =>
    match files.at? place with
    | none => .error .notFound
    | some content => .ok content

/-- Whether something lies at a path. What is too long is not taken for an answer. -/
def hasPath (files : Files) (path : Path) : Except FileFault Bool :=
  match files.find path with
  | .ok _ => .ok true
  | .error .nameTooLong => .error ⟨.nameTooLong, path⟩
  | .error _ => .ok false

/-- The bytes of the file at a path. -/
def read (files : Files) (path : Path) : Except FileFault Bytes :=
  match files.find path with
  | .ok (.file bytes) => .ok bytes
  | .ok .directory => .error ⟨.isDirectory, path⟩
  | .error problem => .error ⟨problem, path⟩

/-- Makes sure that a directory lies at a place, in a directory that is there. -/
def provide (files : Files) (place : List String) : Except FileProblem Files :=
  match files.at? place with
  | none => .ok { files with entries := Entries.put place .directory files.entries }
  | some .directory => .ok files
  | some (.file _) => .error .exists

/-- How many directories above one another are made at once. -/
def depthLimit : Nat := 984

/-- Makes sure that a directory lies at a path, with all directories above it, and tells its place; at
most `more` of these are made. -/
def provideAll (files : Files) : (more : Nat) → Path → Except FileFault (Files × List String)
  | more, path =>
    let provided (files : Files) (place : Except FileProblem (List String)) :
        Except FileFault (Files × List String) :=
      (place.bind fun place => (files.provide place).map (·, place)).mapError (⟨·, path⟩)
    match files.locate path, more with
    | .error .notFound, more + 1 =>
      match provideAll files more path.parent with
      | .error fault => .error fault
      | .ok (files, place) => provided files (inside place (path.names.getLastD ""))
    | .error .notFound, 0 => .error ⟨.tooDeep, path⟩
    | place, _ => provided files place

/-- Makes sure that a directory lies at a path, with all directories above it. -/
def ensureDirectory (files : Files) (path : Path) : Except FileFault Files :=
  (files.provideAll depthLimit path).map (·.1)

/-- Changes the bytes of the file at a path, which is made if there is none. The directory that holds
it has to be there. -/
def update (files : Files) (path : Path) (change : Bytes → Bytes) : Except FileFault Files :=
  match files.locate path with
  | .error problem => .error ⟨problem, path⟩
  | .ok place =>
    match files.at? place with
    | some .directory => .error ⟨.isDirectory, path⟩
    | some (.file bytes) =>
      .ok { files with entries := Entries.put place (.file (change bytes)) files.entries }
    | none => .ok { files with entries := Entries.put place (.file (change [])) files.entries }

/-- Writes a file together with the directories that lead to it. -/
def write (files : Files) (path : Path) (text : String) : Except FileFault Files :=
  match files.ensureDirectory path.parent with
  | .error fault => .error fault
  | .ok files => files.update path fun _ => Utf8.encode text

/-- Opens a file for additions, together with the directories that lead to it. -/
def openForAppend (files : Files) (path : Path) : Except FileFault Files :=
  match files.ensureDirectory path.parent with
  | .error fault => .error fault
  | .ok files => files.update path id

/-- The files of a list of paths from the working directory; nothing at a path means a directory, and
the directories that lead to a path are made. -/
def ofList (contents : List (String × Option Bytes)) : Files :=
  contents.foldl (fun files (text, bytes) =>
    let path := Path.read text
    let result := match bytes with
      | none => files.ensureDirectory path
      | some bytes =>
        match files.ensureDirectory path.parent with
        | .error fault => .error fault
        | .ok files => files.update path fun _ => bytes
    match result with
    | .ok files => files
    | .error _ => files) {}

/-- The files below the working directory by their paths from there, in the order of their making. -/
def toList (files : Files) : List (String × Bytes) :=
  files.entries.filterMap fun (place, content) =>
    match content with
    | .directory => none
    | .file bytes =>
      if files.home.isPrefixOf place then
        some ("/".intercalate (place.drop files.home.length), bytes)
      else none

end Files

end DistrictAtlas
