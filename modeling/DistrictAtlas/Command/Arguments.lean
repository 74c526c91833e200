import DistrictAtlas.Command.Options

/-!
# Arguments

What a command line asks for: a command, where the territories are, codes, and options. All its words
are whole texts. The three go by place, options may stand between them. All codes stand together: once
they were looked for, which is at the latest when an option follows the territories, no more of them
may come. In every place one double dash is dropped, and the place of the territories may be left empty
by it. Reading a command line ends early at a call for help and at the first thing that is wrong.
-/

namespace DistrictAtlas

/-- What a command line asks for. -/
structure Arguments where
  /-- The command. -/
  command : Command
  /-- Where the territories are; nothing if only a double dash stands in their place. -/
  territories : Option String
  /-- The codes to look up. -/
  codes : List String := []
  /-- The settings of the run. -/
  options : Options := {}
deriving DecidableEq, Repr

/-- Why a command line asks for nothing. -/
inductive Usage where
  /-- It asks for help. -/
  | help
  /-- It is wrong. -/
  | wrong
deriving DecidableEq, Repr

/-- The exit code of a program that was not run. -/
def Usage.exitCode : Usage → Nat
  | help => 0
  | wrong => 2

namespace Arguments

/-- The location of the territories; an empty place is written as a pair of brackets. -/
def location (arguments : Arguments) : String :=
  arguments.territories.getD "[]"

/-- What has been read of a command line. -/
structure Progress where
  /-- The command. -/
  command : Option Command := none
  /-- Where the territories are, once their place was found. -/
  territories : Option (Option String) := none
  /-- The codes, once they were looked for. -/
  codes : Option (List String) := none
  /-- The options. -/
  options : Options := {}
  /-- Whether there are words without a place. -/
  surplus : Bool := false

/-- Whether the word is the double dash. -/
def isDivider (word : Word) : Bool := word = .divider

/-- The texts of words without options among them, one double dash dropped. -/
def textsOf (run : List Word) : List String :=
  (run.filterMap Word.text?).erase "--"

/-- What stands in the first place of the words, with the dividers around it, and the other words. -/
def takeOne (run : List Word) : Option (Option String × List Word) :=
  match run.dropWhile isDivider with
  | .plain text :: rest =>
    let place := run.takeWhile isDivider ++ .plain text :: rest.takeWhile isDivider
    some ((textsOf place).head?, rest.dropWhile isDivider)
  | _ => none

/-- Takes all words for the codes, unless there are codes already. -/
def fillCodes (progress : Progress) (run : List Word) : Progress × List Word :=
  match progress.codes with
  | some _ => (progress, run)
  | none => ({ progress with codes := some (textsOf run) }, [])

/-- Takes a word for the territories, if they are not known, and the others for the codes. -/
def fillTerritories (progress : Progress) (run : List Word) : Progress × List Word :=
  match progress.territories with
  | some _ => fillCodes progress run
  | none =>
    match takeOne run with
    | none => (progress, run)
    | some (text, rest) => fillCodes { progress with territories := some text } rest

/-- Gives words without options among them their places, and returns those without one. -/
def fill (progress : Progress) (run : List Word) : Except Usage (Progress × List Word) :=
  match progress.command with
  | some _ => .ok (fillTerritories progress run)
  | none =>
    match takeOne run with
    | none => .ok (progress, run)
    | some (text, rest) =>
      match text.bind Command.named? with
      | none => .error .wrong
      | some command => .ok (fillTerritories { progress with command := some command } rest)

/-- Gives words that stand before an option or at the end their places. -/
def place (progress : Progress) (run : List Word) : Except Usage Progress := do
  let (progress, others) ← fill progress run.reverse
  return { progress with surplus := progress.surplus || !others.isEmpty }

/-- Gives words that stand before an option their places, if there are any. -/
def placeSome (progress : Progress) (run : List Word) : Except Usage Progress :=
  if run.isEmpty then .ok progress else place progress run

/-- Sets a setting. A double dash leaves no text for it. -/
def setting (progress : Progress) (setting : Setting) (value : String) : Except Usage Progress :=
  if value = "--" then .ok { progress with options := progress.options.voided setting }
  else match progress.options.set? value setting with
    | none => .error .wrong
    | some options => .ok { progress with options }

/-- Reads words; `run` holds those since the last option, in reverse. -/
def readWords (progress : Progress) (run : List Word) : List Word → Except Usage Progress
  | [] => place progress run
  | .plain text :: rest => readWords progress (.plain text :: run) rest
  | .divider :: rest => readWords progress (.divider :: run) rest
  | .unknown :: rest => do
    let progress ← placeSome progress run
    readWords { progress with surplus := true } [] rest
  | .option .strict none :: rest => do
    let progress ← placeSome progress run
    readWords { progress with options := { progress.options with strict := true } } [] rest
  | .option (.setting name) (some value) :: rest => do
    let progress ← setting (← placeSome progress run) name value
    readWords progress [] rest
  | .option (.setting name) none :: .plain value :: rest => do
    let progress ← setting (← placeSome progress run) name value
    readWords progress [] rest
  | .option .help none :: _ => do
    let _ ← placeSome progress run
    .error .help
  | _ => .error .wrong

/-- What a command line that was read to its end asks for. -/
def finish (progress : Progress) : Except Usage Arguments :=
  match progress.command, progress.territories, progress.surplus with
  | some command, some territories, false =>
    .ok ⟨command, territories, progress.codes.getD [], progress.options⟩
  | _, _, _ => .error .wrong

/-- What a command line asks for. -/
def read (words : List String) : Except Usage Arguments := do
  let words := Word.listOf words
  if words.contains .ambiguous then throw .wrong
  finish (← readWords {} [] words)

example : (read ["inspect", "t.csv", "--log-f", "a.log"]).toOption.map (·.options.logFile) =
    some (.text "a.log") := by decide +kernel
example : (read ["classify", "t.csv", "--strict", "W1"]).toOption = none := by decide +kernel

end Arguments

end DistrictAtlas
