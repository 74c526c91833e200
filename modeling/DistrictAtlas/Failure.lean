import DistrictAtlas.Fetch.Client
import DistrictAtlas.Fetch.Location
import DistrictAtlas.Files.Store
import DistrictAtlas.Journal
import DistrictAtlas.Json.Printer
import DistrictAtlas.Rules.Palette
import DistrictAtlas.Settings.Fault
import DistrictAtlas.Style.Tree
import DistrictAtlas.Table.Records
import DistrictAtlas.Yaml.Reader

/-!
# Failures

All that can go wrong between a command and its answer. Failures that the program foresees have a code
of their own: settings, tables and whatever a table comes from. All others are told apart by the name
of their kind, which stands in the journal in place of a code.
-/

namespace DistrictAtlas

/-- Why there is no answer. -/
inductive Failure where
  /-- The settings were refused. -/
  | settings (refusal : Settings.Refusal)
  /-- The table was not understood. -/
  | table (fault : Table.Fault)
  /-- There is no file for the table. -/
  | noTable (path : String)
  /-- A server did not deliver. -/
  | fetch (fault : FetchFault)
  /-- A location makes no sense. -/
  | location (fault : Location.Fault)
  /-- An operation on files failed. -/
  | file (fault : FileFault)
  /-- A file is not UTF-8. -/
  | encoding (fault : Utf8.Fault)
  /-- A file is not JSON. -/
  | json (fault : Json.Fault)
  /-- A file is not YAML. -/
  | yaml (fault : Yaml.Fault)
  /-- A number was not converted. -/
  | number (refusal : Digits.Refusal)
  /-- A torn text was not encoded. -/
  | unencoded (text : Torn)
  /-- There are no colors to deal out. -/
  | emptyPalette
  /-- A style tree has no value. -/
  | tree (fault : Tree.Fault)
  /-- No folder for the settings was given. -/
  | noFolder
deriving DecidableEq, Repr

namespace Failure

/-- The failure of a document that is not written to its end. -/
def ofHindrance : Json.Hindrance → Failure
  | .number => number .writing
  | .torn text => unencoded text

/-- The code of a failure that is foreseen. -/
def code? : Failure → Option String
  | settings (.fault _) => some "CONFIG_ERROR"
  | table .cellTooLong => some "SOURCE_ERROR"
  | table _ => some "SCHEMA_INVALID"
  | noTable _ => some "SOURCE_ERROR"
  | fetch fault => if fault.isForeseen then some "HTTP_ERROR" else none
  | _ => none

/-- Whether the program foresees the failure. -/
def isForeseen (failure : Failure) : Bool :=
  failure.code?.isSome

/-- The name of a failure's kind. -/
def kind : Failure → String
  | settings (.fault _) => "ConfigError"
  | settings (.number _) => "ValueError"
  | settings _ => "TypeError"
  | table .cellTooLong => "SourceError"
  | table _ => "SchemaInvalid"
  | noTable _ => "SourceError"
  | fetch fault => fault.kind
  | location _ => "ValueError"
  | file fault => fault.kind
  | encoding _ => "UnicodeDecodeError"
  | json (.malformed ..) => "JSONDecodeError"
  | json (.number _) => "ValueError"
  | json (.tooDeep _) => "RecursionError"
  | yaml fault => fault.kind
  | number _ => "ValueError"
  | unencoded _ => "UnicodeEncodeError"
  | emptyPalette => "ValueError"
  | tree _ => "TypeError"
  | noFolder => "TypeError"

/-- What the journal shows in place of a code. -/
def label (failure : Failure) : String :=
  failure.code?.getD failure.kind

/-- The wording of a failure. -/
def message : Failure → String
  | settings refusal => refusal.message
  | table fault => fault.message
  | noTable path => "Territory table not found: " ++ path
  | fetch fault => fault.message
  | location fault => fault.message
  | file fault => fault.message
  | encoding fault => fault.message
  | json fault => fault.message
  | yaml fault => fault.message
  | number refusal => refusal.message
  | unencoded text => text.complaint
  | emptyPalette => Palette.emptyMessage
  | tree fault => fault.message
  | noFolder => "expected str, bytes or os.PathLike object, not list"

/-- The event of a failure. -/
def event (failure : Failure) (stage name lead : String) : Event :=
  { level := .error, stage := some stage, name := some name, status := some "error",
    errorCode := some failure.label, message := lead ++ failure.message }

end Failure

end DistrictAtlas
