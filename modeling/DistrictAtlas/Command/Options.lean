import DistrictAtlas.Journal
import DistrictAtlas.Text.DecimalDigit

/-!
# Options

The options of the command line and how they are written. A long option may be cut short as long as
no other option begins alike, and a value may be joined to it by an equals sign. Behind a double dash
nothing is an option; neither is a negative number, nor anything that holds a space and is not one.
-/

namespace DistrictAtlas

/-- What can be asked of the program. -/
inductive Command where
  /-- What the map makes of codes. -/
  | classify
  /-- What there is to say about codes. -/
  | describe
  /-- The fill of the map. -/
  | style
  /-- The territories and what was odd about their table. -/
  | inspect
deriving DecidableEq, Repr

namespace Command

/-- All commands. -/
def all : List Command := [classify, describe, style, inspect]

/-- The word for a command. -/
def name : Command → String
  | classify => "classify"
  | describe => "describe"
  | style => "style"
  | inspect => "inspect"

/-- The command with the given word. -/
def named? (word : String) : Option Command :=
  all.find? fun command => command.name = word

end Command

/-- What was given for a setting that need not be given. -/
inductive Given where
  /-- Nothing. -/
  | nothing
  /-- A double dash, which leaves no text. -/
  | void
  /-- A text. -/
  | text (value : String)
deriving DecidableEq, Repr

/-- The text given, if there is one and it is not empty. -/
def Given.text? : Given → Option String
  | text "" => none
  | text value => some value
  | _ => none

/-- The settings of a run. Where there has to be a value, none means that a double dash was given. -/
structure Options where
  /-- A file with further codes. -/
  codesFile : Given := .nothing
  /-- Where the answer goes. -/
  out : Given := .nothing
  /-- Where the postcode areas are listed. -/
  areasManifest : Given := .nothing
  /-- The folder of the settings. -/
  configDir : Option String := some "./config"
  /-- The folder of settings laid over them. -/
  overlayConfigDir : Given := .nothing
  /-- The least level of events to log. -/
  logLevel : Option Level := some .info
  /-- A file for the log. -/
  logFile : Given := .nothing
  /-- Whether odd rows make a partial failure. -/
  strict : Bool := false
deriving DecidableEq, Repr

/-- An option that takes a value. -/
inductive Setting where
  /-- A file with further codes. -/
  | codesFile
  /-- Where the answer goes. -/
  | out
  /-- Where the postcode areas are listed. -/
  | areasManifest
  /-- The folder of the settings. -/
  | configDir
  /-- The folder of settings laid over them. -/
  | overlayConfigDir
  /-- The least level of events to log. -/
  | logLevel
  /-- A file for the log. -/
  | logFile
deriving DecidableEq, Repr

/-- Options with a setting set to a text, unless the text is no value for it. -/
def Options.set? (options : Options) (value : String) : Setting → Option Options
  | .codesFile => some { options with codesFile := .text value }
  | .out => some { options with out := .text value }
  | .areasManifest => some { options with areasManifest := .text value }
  | .configDir => some { options with configDir := some value }
  | .overlayConfigDir => some { options with overlayConfigDir := .text value }
  | .logLevel => (Level.named? value).map fun level => { options with logLevel := some level }
  | .logFile => some { options with logFile := .text value }

/-- Options with a setting that a double dash was given for. -/
def Options.voided (options : Options) : Setting → Options
  | .codesFile => { options with codesFile := .void }
  | .out => { options with out := .void }
  | .areasManifest => { options with areasManifest := .void }
  | .configDir => { options with configDir := none }
  | .overlayConfigDir => { options with overlayConfigDir := .void }
  | .logLevel => { options with logLevel := none }
  | .logFile => { options with logFile := .void }

/-- An option. -/
inductive Switch where
  /-- Ask for help. -/
  | help
  /-- Take odd rows for a partial failure. -/
  | strict
  /-- Set something. -/
  | setting (setting : Setting)
deriving DecidableEq, Repr

namespace Switch

/-- The long spellings. -/
def spellings : List (String × Switch) :=
  [("--help", help), ("--codes-file", setting .codesFile), ("--out", setting .out),
   ("--areas-manifest", setting .areasManifest), ("--config-dir", setting .configDir),
   ("--overlay-config-dir", setting .overlayConfigDir), ("--log-level", setting .logLevel),
   ("--log-file", setting .logFile), ("--strict", strict)]

/-- The options with a spelling that begins in the given way; a full spelling stands for itself. -/
def matching (beginning : List Char) : List Switch :=
  match spellings.find? fun entry => entry.1.toList = beginning with
  | some entry => [entry.2]
  | none => (spellings.filter fun entry => beginning.isPrefixOf entry.1.toList).map (·.2)

end Switch

/-- What a word of the command line is. -/
inductive Word where
  /-- A word that is no option. -/
  | plain (text : String)
  /-- The double dash behind which nothing is an option. -/
  | divider
  /-- An option with the value joined to it. -/
  | option (switch : Switch) (joined : Option String)
  /-- An option that there is not. -/
  | unknown
  /-- The beginning of several options. -/
  | ambiguous
deriving DecidableEq, Repr

namespace Word

/-- Whether what follows a dash makes a number; a line feed may follow. -/
def isNumber (cs : List Char) : Bool :=
  let cs := if cs.getLast? = some '\n' then cs.dropLast else cs
  match cs.dropWhile Text.isDecimalDigit with
  | [] => !cs.isEmpty
  | '.' :: fraction => !fraction.isEmpty && fraction.all Text.isDecimalDigit
  | _ => false

/-- A word with a dash that spells no option. -/
def misspelt (cs : List Char) : Word :=
  if isNumber (cs.drop 1) || cs.contains ' ' then plain (String.ofList cs) else unknown

/-- A word that begins with two dashes. -/
def long (cs : List Char) : Word :=
  let joined := match cs.dropWhile (· ≠ '=') with
    | [] => none
    | _ :: value => some (String.ofList value)
  match Switch.matching (cs.takeWhile (· ≠ '=')) with
  | [] => misspelt cs
  | [switch] => option switch joined
  | _ => ambiguous

/-- A word that begins with one dash: the short spelling of help, which may be repeated, an equals sign
behind the first letter not counting. Anything else behind it is a value, which help does not take. -/
def short (cs : List Char) : Word :=
  match cs.drop 1 with
  | 'h' :: rest =>
    let others := match rest with
      | '=' :: h :: more => h :: more
      | _ => rest
    if others.all (· = 'h') then option .help none else option .help (some (String.ofList rest))
  | _ => misspelt cs

/-- What a word before any double dash is. -/
def ofText (text : String) : Word :=
  match text.toList with
  | [] => plain text
  | ['-'] => plain text
  | ['-', '-'] => divider
  | '-' :: '-' :: rest => long ('-' :: '-' :: rest)
  | '-' :: rest => short ('-' :: rest)
  | _ => plain text

/-- The words of a command line. -/
def listOf : List String → List Word
  | [] => []
  | text :: rest =>
    match ofText text with
    | divider => divider :: rest.map plain
    | word => word :: listOf rest

/-- The text of a word that is no option. -/
def text? : Word → Option String
  | plain text => some text
  | divider => some "--"
  | _ => none

end Word

end DistrictAtlas
