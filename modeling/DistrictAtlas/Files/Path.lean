import DistrictAtlas.Text.Split

/-!
# Paths

Where a file lies: the names to follow from the working directory or from the root. Empty names and
single dots are left out when a path is read, double dots are kept, and the written form shows what
is left.
-/

namespace DistrictAtlas

/-- Where a file lies. -/
structure Path where
  /-- What the path begins with: nothing for the working directory, or one or two slashes. -/
  root : String
  /-- The names to follow. -/
  names : List String
deriving DecidableEq, Repr

namespace Path

/-- The slashes that a path begins with count as one, except that exactly two stay two. -/
def rootOf (cs : List Char) : String :=
  match (cs.takeWhile (· = '/')).length with
  | 0 => ""
  | 2 => "//"
  | _ => "/"

/-- The path that a text writes. -/
def read (text : String) : Path :=
  let parts := (Text.splitChars '/' text.toList).map String.ofList
  ⟨rootOf text.toList, parts.filter fun part => part ≠ "" ∧ part ≠ "."⟩

/-- The written form of a path. -/
def text (path : Path) : String :=
  if path.root = "" ∧ path.names = [] then "." else path.root ++ "/".intercalate path.names

/-- The path of a name inside a directory. -/
def child (path : Path) (name : String) : Path :=
  { path with names := path.names ++ [name] }

/-- The directory that holds what lies at a path. -/
def parent (path : Path) : Path :=
  { path with names := path.names.dropLast }

end Path

end DistrictAtlas
