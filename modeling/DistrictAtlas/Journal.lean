import DistrictAtlas.Json.Printer
import DistrictAtlas.Rules.Rulebook

/-!
# The journal

What happened, as a list of events. An event has a level, and a journal keeps the events from its own
level upward. In a log every event is one line of JSON with a fixed list of fields, of which those
that do not apply are null.
-/

namespace DistrictAtlas

/-- How much an event matters. -/
inductive Level where
  /-- Of interest only in tracing a fault. -/
  | debug
  /-- An ordinary step. -/
  | info
  /-- Something that should be looked at. -/
  | warning
  /-- A failure. -/
  | error
  /-- A failure that ends everything; no event is like this, so a journal from here on stays empty. -/
  | critical
deriving DecidableEq, Repr

namespace Level

/-- The levels that can be asked for, the least one first. -/
def choices : List Level := [debug, info, warning, error]

/-- The name of a level. -/
def name : Level → String
  | debug => "DEBUG"
  | info => "INFO"
  | warning => "WARNING"
  | error => "ERROR"
  | critical => "CRITICAL"

/-- The rank of a level. -/
def rank : Level → Nat
  | debug => 0
  | info => 1
  | warning => 2
  | error => 3
  | critical => 4

/-- The level with the given name, if it can be asked for. -/
def named? (name : String) : Option Level :=
  choices.find? fun level => level.name = name

/-- Other words for levels; where no level is set, warnings are kept. -/
def otherWords : List (String × Level) :=
  [("WARN", warning), ("NOTSET", warning), ("CRITICAL", critical), ("FATAL", critical)]

/-- The level that a word stands for. -/
def ofWord? (word : String) : Option Level :=
  (named? word).or (otherWords.lookup word)

end Level

/-- One thing that happened. It has a level and a message; all else is said where it applies. -/
structure Event where
  /-- How much it matters. -/
  level : Level := .info
  /-- The part of the work in which it happened. -/
  stage : Option String := none
  /-- The territory that it concerns. -/
  territory : Option String := none
  /-- The row of the table that it concerns. -/
  row : Option Int := none
  /-- What happened. -/
  name : Option String := none
  /-- How it went. -/
  status : Option String := none
  /-- The number of rows taken in. -/
  rowsIn : Option Int := none
  /-- The number of territories put out. -/
  rowsOut : Option Int := none
  /-- The kind of failure. -/
  errorCode : Option String := none
  /-- What happened, in words. -/
  message : String
deriving DecidableEq, Repr

namespace Event

/-- A text that may be absent. -/
def textField (text : Option String) : Scalar :=
  text.elim .null .text

/-- A number that may be absent. -/
def countField (count : Option Int) : Scalar :=
  count.elim .null .int

/-- The fields of an event's line. -/
def fields (stamp : String) (event : Event) : List (String × Scalar) :=
  [("timestamp", .text stamp), ("level", .text event.level.name), ("stage", textField event.stage),
   ("territory", textField event.territory), ("row", countField event.row),
   ("event", textField event.name), ("status", textField event.status),
   ("rows_in", countField event.rowsIn), ("rows_out", countField event.rowsOut),
   ("error_code", textField event.errorCode), ("message", .text event.message)]

/-- The line of an event in a log, with the time of writing. -/
def line (stamp : String) (event : Event) : String :=
  Json.line (event.fields stamp)

/-- Whether a journal that begins at the given level keeps the event. -/
def isKept (least : Level) (event : Event) : Bool :=
  least.rank ≤ event.level.rank

end Event

namespace Notice

/-- The level at which a notice is logged. -/
def level (notice : Notice) : Level :=
  match notice.kind with
  | .rowSkipped => .debug
  | .countReplaced => .info
  | .voidToken => .info
  | .unknownStatus => .warning
  | .unreachable => .warning
  | .duplicate => .warning

/-- The event of a notice. -/
def event (notice : Notice) : Event :=
  { level := notice.level, stage := some "compile", territory := notice.territory,
    row := some notice.row, name := some notice.kind.name, status := some "diagnostic",
    message := notice.detail }

end Notice

namespace Rulebook

/-- The events of making a rulebook from a number of rows. -/
def events (book : Rulebook) (rows : Nat) : List Event :=
  book.notices.map Notice.event ++
    [{ stage := some "compile", name := some "COMPILE_END", status := some "ok",
       rowsIn := some rows, rowsOut := some book.territories.length,
       message := "rule set compiled" }]

end Rulebook

end DistrictAtlas
