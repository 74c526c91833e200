import DistrictAtlas.Failure
import DistrictAtlas.Text.Lines
import DistrictAtlas.Style.Theme

/-!
# Sources

Where territory tables and lists of postcode areas come from: a file or a server. A table that is not
there is a failure. For a list of areas that is not there, or has nothing in it, other areas are put
in, and a warning is logged.
-/

namespace DistrictAtlas

/-- Postcode areas, and what is to be logged about where they come from. -/
structure AreaList where
  /-- The names of the areas. -/
  names : List Wording
  /-- What is to be logged. -/
  events : List Event := []
deriving DecidableEq, Repr

namespace Source

/-- What was found without asking a server. -/
def settled {α : Type} (result : Except Failure α) (network : Network) : Fetched Failure α :=
  ⟨result, [], network⟩

/-- The text of a file. -/
def fileText (files : Files) (path : Path) : Except Failure String := do
  let bytes ← (files.read path).mapError .file
  (Utf8.decode bytes).mapError .encoding

/-- The text of the table in a file. -/
def tableFile (files : Files) (path : Path) : Except Failure String := do
  if ← (files.hasPath path).mapError .file then fileText files path
  else throw (.noTable path.text)

/-- The text of the table at a location. -/
def table (library : Library) (files : Files) (client : Client) (location : String)
    (network : Network) : Fetched Failure String :=
  match Location.isAddress location with
  | .error fault => settled (.error (.location fault)) network
  | .ok true =>
    let fetched := client.fetchText library location [] none network
    { fetched with result := fetched.result.mapError .fetch }
  | .ok false => settled (tableFile files (Path.read location)) network

/-- The document in a file, if there is a file; it may be nested up to the given depth. -/
def manifestFile (depth : Nat) (files : Files) (path : Path) : Except Failure (Option Value) := do
  if ← (files.hasPath path).mapError .file then
    let text ← fileText files path
    let document ← (Json.readWithin depth (Text.withLineFeeds text)).mapError .json
    return some document
  else return none

/-- What a server delivered, where a document that it does not have is no failure. -/
def delivered : Except FetchFault Value → Except Failure (Option Value)
  | .ok document => .ok (some document)
  | .error fault => if fault.status? = some 404 then .ok none else .error (.fetch fault)

/-- The document at a location, if there is one. -/
def manifest (library : Library) (files : Files) (client : Client) (location : String)
    (network : Network) : Fetched Failure (Option Value) :=
  match Location.isAddress location with
  | .error fault => settled (.error (.location fault)) network
  | .ok true =>
    let fetched := client.fetchDocument library location [] none network
    { fetched with result := delivered fetched.result }
  | .ok false => settled (manifestFile library.depth files (Path.read location)) network

/-- The texts of the items that are not blank, without blanks around them. -/
def areaNames : List Value → Except Failure (List Wording)
  | [] => .ok []
  | item :: rest => do
    let name := (← item.plainText.mapError .number).trim
    let others ← areaNames rest
    return if name.isEmpty then others else name :: others

/-- The areas that a document lists; only a list lists any. -/
def listedAreas : Option Value → Except Failure (List Wording)
  | some (.list items) => areaNames items
  | _ => .ok []

/-- The warning that other areas were put in. -/
def fallbackEvent (location : String) : Event :=
  { level := .warning, stage := some "load", name := some "MANIFEST_FALLBACK",
    status := some "fallback",
    message := "area manifest unavailable at " ++ location ++ "; using fallback areas" }

/-- The areas of a document, or others in their place. -/
def areasOr (fallback : List Wording) (location : String) (document : Option Value) :
    Except Failure AreaList := do
  match ← listedAreas document with
  | [] => return ⟨fallback, [fallbackEvent location]⟩
  | names => return ⟨names, []⟩

/-- The areas that are listed at a location, or others in their place. -/
def areas (library : Library) (files : Files) (client : Client) (fallback : List Wording)
    (location : String) (network : Network) : Fetched Failure AreaList :=
  let found := manifest library files client location network
  { found with result := found.result.bind (areasOr fallback location) }

end Source

end DistrictAtlas
