import DistrictAtlas.Failure
import DistrictAtlas.Settings.Overlay
import DistrictAtlas.Settings.Theme

/-!
# Loading settings

Settings lie in a file of a fixed name in a folder. A file of the same name in a second folder may be
laid over them; when it is not there, or empty, the settings stand as they are. How the bytes of such a
file are read as a document is left open.
-/

namespace DistrictAtlas.Settings

/-- A way to read the bytes of a settings file as a document. -/
abbrev Reader := Bytes → Except Yaml.Fault Value

/-- Settings files are read as YAML, of which a part is known. -/
def Reader.standard : Reader := fun bytes => Yaml.read (Yaml.Supply.ofBytes bytes)

/-- The name of the settings file in its folder. -/
def fileName : String := "style.yml"

/-- The document in a file. -/
def documentIn (reader : Reader) (files : Files) (path : Path) : Except Failure Value := do
  let bytes ← (files.read path).mapError .file
  (reader bytes).mapError .yaml

/-- The settings in a file. -/
def base (reader : Reader) (files : Files) (path : Path) : Except Failure Value := do
  if ← (files.hasPath path).mapError .file then documentIn reader files path
  else throw (.settings (.fault (.missingFile path.text)))

/-- The document in an overlay file, or the empty value when there is none. -/
def overlayAt (reader : Reader) (files : Files) : Option Path → Except Failure Value
  | none => .ok .null
  | some path => do
    if ← (files.hasPath path).mapError .file then documentIn reader files path
    else return .null

/-- Settings with the document of an overlay file laid over them. -/
def withOverlay (settings : Value) (path : String) : Value → Except Failure Value
  | .scalar .null => .ok settings
  | .mapping entries => .ok (settings.overlay (.mapping entries))
  | _ => .error (.settings (.fault (.overlayNotMapping path)))

/-- The settings in a file with those of an overlay file laid over them. -/
def document (reader : Reader) (files : Files) (path : Path) (overlay : Option Path) :
    Except Failure Value := do
  let settings ← base reader files path
  let above ← overlayAt reader files overlay
  withOverlay settings (overlay.elim "" Path.text) above

/-- The theme that the settings in a folder describe, with those of an overlay folder laid over
them. -/
def load (reader : Reader) (files : Files) (folder : Path) (overlayFolder : Option Path)
    (allowUnknown : Bool) : Except Failure Theme := do
  let settings ←
    document reader files (folder.child fileName)
      (overlayFolder.map fun path => path.child fileName)
  (theme allowUnknown settings).mapError .settings

end DistrictAtlas.Settings
