import DistrictAtlas.Proofs.Command.Alike
import DistrictAtlas.Proofs.Command.SameOwners

/-!
# Exit codes and answers

A run without a file for its log answers as if there were no log: what it puts out, what it leaves in
the files and whether it fails depend on loading and carrying out the command alone. A strict run
differs from another one in its exit code only, and only where neither fails.
-/

namespace DistrictAtlas

/-- A territory claims nothing, has an unknown status, or was declared before. -/
def Rulebook.HasOddRows (book : Rulebook) : Prop :=
  ∃ notice ∈ book.notices,
    notice.kind = .unreachable ∨ notice.kind = .unknownStatus ∨ notice.kind = .duplicate

namespace Arguments

/-- Loads what is needed and carries out the command, without what a run puts around it in the log. The
result is the rulebook that was loaded. -/
def attempt (arguments : Arguments) (scene : Scene) : Step Rulebook :=
  (scene.load arguments).andThen fun scene atlas =>
    (scene.execute atlas arguments).andThen fun scene _ => ⟨scene, .ok atlas.book⟩

/-- Loading fails, or the command does. -/
def Fails (arguments : Arguments) (scene : Scene) : Prop :=
  ∃ failure, (arguments.attempt scene).result = .error failure

/-- Loading fails. -/
def FailsToLoad (arguments : Arguments) (scene : Scene) : Prop :=
  ∃ failure, (scene.load arguments).result = .error failure

/-- Nothing fails, and the rulebook that was loaded has odd rows. -/
def FindsOddRows (arguments : Arguments) (scene : Scene) : Prop :=
  ∃ book, (arguments.attempt scene).result = .ok book ∧ book.HasOddRows

/-- Two command lines ask for the same, except for strictness and the level of the log. -/
def AsksLike (arguments other : Arguments) : Prop :=
  ∃ strict logLevel, other = { arguments with
    options := { arguments.options with strict, logLevel } }

/-- Strictness and the level of the log are nothing to loading and carrying out the command. -/
theorem AsksLike.attempt {arguments other : Arguments} (h : arguments.AsksLike other)
    (scene : Scene) : other.attempt scene = arguments.attempt scene := by
  obtain ⟨strict, logLevel, rfl⟩ := h
  rfl

/-- The same is loaded and carried out in scenes that are alike. -/
theorem attempt_alike (arguments : Arguments) {scene other : Scene} (h : scene.Alike other) :
    (arguments.attempt scene).Alike (arguments.attempt other) :=
  (h.load arguments).andThen fun atlas h => (h.execute atlas arguments).andThen fun _ h => ⟨h, rfl⟩

/-- An attempt ends with loading if this fails. -/
theorem attempt_scene_of_failsToLoad {arguments : Arguments} {scene : Scene}
    (h : arguments.FailsToLoad scene) :
    (arguments.attempt scene).scene = (scene.load arguments).scene := by
  obtain ⟨failure, hfailure⟩ := h
  unfold attempt Step.andThen
  rw [hfailure]

/-- How a run ends, by what became of loading and carrying out the command. -/
def exitOf (arguments : Arguments) : Except Failure Rulebook → Exit
  | .error _ => .failure
  | .ok book => arguments.exitFor book

/-- A run that has a level but no file for its log ends as its attempt does, and leaves a scene that
is like the one that this leaves. -/
theorem run_attempt {arguments : Arguments} {scene : Scene} {level : Level}
    (hlevel : arguments.options.logLevel = some level)
    (hfile : arguments.options.logFile.text? = none) (hscene : scene.logPath = none) :
    (arguments.attempt scene).scene.Alike (arguments.run scene).scene ∧
      (arguments.run scene).exit = arguments.exitOf (arguments.attempt scene).result := by
  have hstart : scene.Alike { scene with least := level } := ⟨rfl, rfl, rfl, rfl, hscene, hscene⟩
  have hload := hstart.load arguments
  unfold run
  rw [hlevel, hfile]
  unfold runLogged attempt Step.andThen
  dsimp only
  rw [hload.result]
  cases (scene.load arguments).result with
  | error failure =>
    refine ⟨?_, rfl⟩
    dsimp only
    split
    · exact hload.scene.log _
    · exact hload.scene
  | ok atlas =>
    have hexecute := (hload.scene.log
      (arguments.event "COMMAND_START" "command start")).execute atlas arguments
    unfold runLoaded
    dsimp only
    rw [hexecute.result]
    cases ((scene.load arguments).scene.execute atlas arguments).result with
    | error failure => exact ⟨hexecute.scene.log _, rfl⟩
    | ok done => exact ⟨hexecute.scene.log _, rfl⟩

/-- A run without a level fails before it begins. -/
theorem run_of_no_level {arguments : Arguments} (h : arguments.options.logLevel = none)
    (scene : Scene) : arguments.run scene = ⟨.failure, scene⟩ := by
  unfold run
  rw [h]

/-- A command that was carried out ends in a strict run with odd rows by the code for these, and in
any other run by the code for success. -/
theorem exitFor_code (arguments : Arguments) (book : Rulebook) :
    ((arguments.exitFor book).code = 10 ↔ arguments.options.strict = true ∧ book.HasOddRows) ∧
      ((arguments.exitFor book).code = 0 ∨ (arguments.exitFor book).code = 10) := by
  have hkind : ∀ kind : NoticeKind, kind.isStrict = true ↔
      kind = .unreachable ∨ kind = .unknownStatus ∨ kind = .duplicate := by
    intro kind
    cases kind <;> decide
  unfold Rulebook.HasOddRows exitFor
  simp only [← hkind]
  rw [← List.any_eq_true, ← Bool.and_eq_true]
  cases arguments.options.strict && book.notices.any (·.kind.isStrict) <;> decide

/-- An attempt that does not fail finds what its rulebook has. -/
theorem findsOddRows_iff {arguments : Arguments} {scene : Scene} {book : Rulebook}
    (h : (arguments.attempt scene).result = .ok book) :
    arguments.FindsOddRows scene ↔ book.HasOddRows := by
  constructor
  · rintro ⟨other, hother, hodd⟩
    rw [h] at hother
    cases hother
    exact hodd
  · exact fun hodd => ⟨book, h, hodd⟩

/-- An attempt that gives a rulebook does not fail. -/
theorem not_fails_of_attempt {arguments : Arguments} {scene : Scene} {book : Rulebook}
    (h : (arguments.attempt scene).result = .ok book) : ¬arguments.Fails scene := by
  rintro ⟨failure, hfailure⟩
  rw [h] at hfailure
  cases hfailure

/-- A run without a file for its log fails exactly if it has no level or its attempt fails. Otherwise
it ends by the code for odd rows exactly if it is strict and finds some, and by the code for success
if not. -/
theorem exit_code_iff {arguments : Arguments} {scene : Scene}
    (hfile : arguments.options.logFile.text? = none) (hscene : scene.logPath = none) :
    ((arguments.run scene).exit.code = 20 ↔
        arguments.options.logLevel = none ∨ arguments.Fails scene) ∧
      (¬(arguments.options.logLevel = none ∨ arguments.Fails scene) →
        ((arguments.run scene).exit.code = 10 ↔
          arguments.options.strict = true ∧ arguments.FindsOddRows scene) ∧
        (¬(arguments.options.strict = true ∧ arguments.FindsOddRows scene) →
          (arguments.run scene).exit.code = 0)) := by
  cases hlevel : arguments.options.logLevel with
  | none =>
    rw [run_of_no_level hlevel]
    exact ⟨⟨fun _ => Or.inl rfl, fun _ => rfl⟩, fun hnot => absurd (Or.inl rfl) hnot⟩
  | some level =>
    rw [(run_attempt hlevel hfile hscene).2]
    cases hattempt : (arguments.attempt scene).result with
    | error failure =>
      have hfails : arguments.Fails scene := ⟨failure, hattempt⟩
      exact ⟨⟨fun _ => Or.inr hfails, fun _ => rfl⟩, fun hnot => absurd (Or.inr hfails) hnot⟩
    | ok book =>
      obtain ⟨hodd, hcode⟩ := exitFor_code arguments book
      have hsucceeds : ¬(some level = none ∨ arguments.Fails scene) :=
        not_or.mpr ⟨nofun, not_fails_of_attempt hattempt⟩
      rw [findsOddRows_iff hattempt, ← hodd]
      refine ⟨⟨fun hfails => ?_, fun hfails => absurd hfails hsucceeds⟩, fun _ => ⟨Iff.rfl, ?_⟩⟩
      · exact absurd (Exit.code_eq_twenty_iff.mp hfails) (exitFor_ne_failure arguments book)
      · exact hcode.resolve_right

/-- Runs with a level each, that ask for the same except for strictness and the level, leave scenes
that are alike, and their codes differ at most as success from odd rows. -/
theorem runs_alike {arguments other : Arguments} {scene otherScene : Scene}
    {level otherLevel : Level} (hasks : arguments.AsksLike other) (hscenes : scene.Alike otherScene)
    (hfile : arguments.options.logFile.text? = none)
    (hlevel : arguments.options.logLevel = some level)
    (hotherLevel : other.options.logLevel = some otherLevel) :
    (arguments.run scene).scene.Alike (other.run otherScene).scene ∧
      ((other.run otherScene).exit.code = (arguments.run scene).exit.code ∨
        ((arguments.run scene).exit.code = 0 ∧ (other.run otherScene).exit.code = 10) ∨
        ((arguments.run scene).exit.code = 10 ∧ (other.run otherScene).exit.code = 0)) := by
  have hotherFile : other.options.logFile.text? = none := by
    obtain ⟨strict, logLevel, rfl⟩ := hasks
    exact hfile
  obtain ⟨hrun, hexit⟩ := run_attempt hlevel hfile hscenes.unlogged
  obtain ⟨hotherRun, hotherExit⟩ := run_attempt hotherLevel hotherFile hscenes.otherUnlogged
  have hattempts := attempt_alike arguments hscenes
  rw [hasks.attempt] at hotherRun hotherExit
  rw [hattempts.result] at hotherExit
  refine ⟨(hrun.symm.trans hattempts.scene).trans hotherRun, ?_⟩
  rw [hexit, hotherExit]
  cases (arguments.attempt scene).result with
  | error failure => exact Or.inl rfl
  | ok book =>
    rcases (exitFor_code arguments book).2 with hcode | hcode <;>
      rcases (exitFor_code other book).2 with hother | hother <;>
      simp only [exitOf, hcode, hother, and_self, true_or, or_true]

/-- A run that has no level, or that fails to load, changes nothing where its log has no file. -/
theorem run_changes_nothing {arguments : Arguments} {scene : Scene}
    (hfile : arguments.options.logFile.text? = none) (hscene : scene.logPath = none)
    (h : arguments.options.logLevel = none ∨ arguments.FailsToLoad scene) :
    (arguments.run scene).scene.output = scene.output ∧
      (arguments.run scene).scene.files = scene.files := by
  cases hlevel : arguments.options.logLevel with
  | none =>
    rw [run_of_no_level hlevel]
    exact ⟨rfl, rfl⟩
  | some level =>
    have hfails : arguments.FailsToLoad scene := h.resolve_left (by rw [hlevel]; nofun)
    have hload := Scene.onlyLogs_load scene arguments
    obtain ⟨hrun, -⟩ := run_attempt hlevel hfile hscene
    rw [attempt_scene_of_failsToLoad hfails] at hrun
    exact ⟨hrun.output.trans hload.output, hrun.files.trans (hload.unlogged hscene)⟩

/-- Without a file for the log, a run fails exactly if it has no level for it, or loading or carrying
out the command fails; if not, it ends by the code for odd rows exactly if it is strict and the
rulebook has some, and by the code for success otherwise. A run that asks for the same except for
strictness and the level, and has a level if the first one has, puts out the same and leaves the same
files, and its code differs at most as success from odd rows. A run that fails to load puts out
nothing and changes no file, and one without a level does neither. -/
theorem exit_codes_and_answers (arguments : Arguments) (scene : Scene)
    (hfile : arguments.options.logFile.text? = none) (hscene : scene.logPath = none) :
    ((arguments.run scene).exit.code = 20 ↔
        arguments.options.logLevel = none ∨ arguments.Fails scene) ∧
      (¬(arguments.options.logLevel = none ∨ arguments.Fails scene) →
        ((arguments.run scene).exit.code = 10 ↔
          arguments.options.strict = true ∧ arguments.FindsOddRows scene) ∧
        (¬(arguments.options.strict = true ∧ arguments.FindsOddRows scene) →
          (arguments.run scene).exit.code = 0)) ∧
      (∀ (other : Arguments) (otherScene : Scene), arguments.AsksLike other →
        scene.Alike otherScene →
        (arguments.options.logLevel = none ↔ other.options.logLevel = none) →
        (other.run otherScene).scene.output = (arguments.run scene).scene.output ∧
          (other.run otherScene).scene.files = (arguments.run scene).scene.files ∧
          ((other.run otherScene).exit.code = (arguments.run scene).exit.code ∨
            ((arguments.run scene).exit.code = 0 ∧ (other.run otherScene).exit.code = 10) ∨
            ((arguments.run scene).exit.code = 10 ∧ (other.run otherScene).exit.code = 0))) ∧
      (arguments.options.logLevel = none ∨ arguments.FailsToLoad scene →
        (arguments.run scene).scene.output = scene.output ∧
          (arguments.run scene).scene.files = scene.files) := by
  obtain ⟨hfails, hsucceeds⟩ := exit_code_iff hfile hscene
  refine ⟨hfails, hsucceeds, fun other otherScene hasks hscenes hlevels => ?_,
    run_changes_nothing hfile hscene⟩
  cases hlevel : arguments.options.logLevel with
  | none =>
    rw [run_of_no_level hlevel, run_of_no_level (hlevels.mp hlevel)]
    exact ⟨hscenes.output, hscenes.files, Or.inl rfl⟩
  | some level =>
    cases hotherLevel : other.options.logLevel with
    | none =>
      rw [hlevels.mpr hotherLevel] at hlevel
      cases hlevel
    | some otherLevel =>
      obtain ⟨hruns, hcodes⟩ := runs_alike hasks hscenes hfile hlevel hotherLevel
      exact ⟨hruns.output, hruns.files, hcodes⟩

/-! ## Classifications -/

/-- A classification of the codes on a command line that is put out succeeds once all is loaded. -/
theorem attempt_classify {arguments : Arguments} {scene : Scene} {atlas : Atlas}
    (hatlas : scene.atlas arguments = .ok atlas) (hcommand : arguments.command = .classify)
    (hcodes : arguments.options.codesFile.text? = none)
    (hout : arguments.options.out.text? = none) :
    (arguments.attempt scene).result = .ok atlas.book := by
  have hlisted : ∃ codes, (scene.load arguments).scene.codes arguments = .ok codes := by
    unfold Scene.codes
    rw [hcodes]
    exact ⟨_, rfl⟩
  obtain ⟨codes, hlisted⟩ := hlisted
  have hprepare := Scene.prepare_classify_output hcommand hout (scene.load arguments).scene atlas
  rw [hlisted] at hprepare
  have hexecute : ((scene.load arguments).scene.execute atlas arguments).result = .ok () := by
    rw [Scene.execute_eq, Step.andThen, hprepare, hout]
    dsimp only [Except.map]
    rw [Scene.deposit_output _ (Delivery.stops_rows _)]
  unfold attempt Step.andThen
  rw [Scene.load_result, hatlas]
  dsimp only
  rw [hexecute]

/-- A table in which a territory is declared twice. -/
def twiceTable : String := "id,prefixes\nT1,W1\nT1,W2\n"

/-- The rulebook of the table. -/
def twiceBook : Rulebook :=
  .ofRecords Settings.minimalPalette
    [{ id := "T1", tokens := "W1" }, { id := "T1", tokens := "W2" }]

/-- The table beside the shortest settings. -/
def twiceScene : Scene := .besideMinimalSettings twiceTable

/-- A strict classification of one code. -/
def askedForStrict : Arguments :=
  { command := .classify, territories := some "t.csv", codes := ["W1"],
    options := { strict := true } }

/-- The same classification, not strict, of which all is logged. -/
def askedForDebug : Arguments :=
  { askedForStrict with options := { logLevel := some .debug } }

/-- The same classification with a double dash for a level. -/
def askedForNoLevel : Arguments :=
  { askedForStrict with options := { logLevel := none } }

/-- The atlas that is loaded, whatever the level. -/
theorem atlas_twiceScene {arguments : Arguments} (h : arguments.IsPlain) :
    twiceScene.atlas arguments = .ok ⟨Settings.minimalTheme, twiceBook⟩ := by
  have hload : Rulebook.load Settings.minimalTheme.palette twiceTable = .ok ⟨twiceBook, 2⟩ :=
    Rulebook.load_of_records (by decide +kernel) Settings.minimalPalette
  exact Scene.atlas_besideMinimalSettings h hload

/-- The classification succeeds, whether it is strict and whatever is logged. -/
theorem attempt_twiceScene {arguments : Arguments} (h : askedForStrict.AsksLike arguments) :
    (arguments.attempt twiceScene).result = .ok twiceBook := by
  rw [h.attempt]
  exact attempt_classify (atlas_twiceScene ⟨rfl, rfl, rfl⟩) rfl rfl rfl

/-- It does not fail. -/
theorem not_fails_twiceScene {arguments : Arguments} (h : askedForStrict.AsksLike arguments) :
    ¬arguments.Fails twiceScene :=
  not_fails_of_attempt (attempt_twiceScene h)

/-- The strict run ends by the code for odd rows and the one of which all is logged by the code for
success, and both put out the same and leave the same files. -/
theorem strict_and_debug_answers :
    askedForStrict.options.logFile.text? = none ∧ twiceScene.logPath = none ∧
      askedForStrict.AsksLike askedForDebug ∧
      (askedForStrict.run twiceScene).exit.code = 10 ∧
      (askedForDebug.run twiceScene).exit.code = 0 ∧
      (askedForDebug.run twiceScene).scene.output = (askedForStrict.run twiceScene).scene.output ∧
      (askedForDebug.run twiceScene).scene.files =
        (askedForStrict.run twiceScene).scene.files := by
  have hasks : askedForStrict.AsksLike askedForDebug := ⟨false, some .debug, rfl⟩
  have hsame : askedForStrict.AsksLike askedForStrict := ⟨true, some .info, rfl⟩
  have hnotice : ∃ notice ∈ twiceBook.notices, notice.kind = .duplicate := by decide +kernel
  obtain ⟨notice, hmem, hkind⟩ := hnotice
  have hodd : askedForStrict.FindsOddRows twiceScene :=
    ⟨twiceBook, attempt_twiceScene hsame, notice, hmem, Or.inr (Or.inr hkind)⟩
  obtain ⟨-, hstrict, htwo, -⟩ := exit_codes_and_answers askedForStrict twiceScene rfl rfl
  obtain ⟨-, hdebug, -⟩ := exit_codes_and_answers askedForDebug twiceScene rfl rfl
  obtain ⟨houtput, hfiles, -⟩ := htwo askedForDebug twiceScene hasks (.refl rfl)
    ⟨nofun, nofun⟩
  refine ⟨rfl, rfl, hasks, ?_, ?_, houtput, hfiles⟩
  · refine (hstrict ?_).1.mpr ⟨rfl, hodd⟩
    exact not_or.mpr ⟨nofun, not_fails_twiceScene hsame⟩
  · refine (hdebug ?_).2 fun hstrict => Bool.false_ne_true hstrict.1
    exact not_or.mpr ⟨nofun, not_fails_twiceScene hasks⟩

/-- With a double dash for the level the run fails and puts out nothing, although neither loading nor
the command fails. Of the run of which all is logged this differs in the level only, and that one
succeeds and puts out something. -/
theorem no_level_fails :
    ∃ (words others : List String) (arguments other : Arguments) (scene : Scene),
      read words = .ok arguments ∧ read others = .ok other ∧
        arguments.options.logFile.text? = none ∧ scene.logPath = none ∧
        arguments.AsksLike other ∧ ¬arguments.Fails scene ∧
        (arguments.run scene).exit.code = 20 ∧ (other.run scene).exit.code = 0 ∧
        (arguments.run scene).scene.output ≠ (other.run scene).scene.output := by
  have hread : read ["classify", "t.csv", "W1", "--log-level=--"] = .ok askedForNoLevel := by
    decide +kernel
  have hother : read ["classify", "t.csv", "W1", "--log-level", "DEBUG"] = .ok askedForDebug := by
    decide +kernel
  have hdebug : askedForStrict.AsksLike askedForDebug := ⟨false, some .debug, rfl⟩
  have hcode : (askedForDebug.run twiceScene).exit.code = 0 := by
    refine ((exit_code_iff rfl rfl).2 ?_).2 fun hstrict => Bool.false_ne_true hstrict.1
    exact not_or.mpr ⟨nofun, not_fails_twiceScene hdebug⟩
  have hdelivers : askedForDebug.Delivers twiceScene { twiceScene with least := .debug }
      ⟨Settings.minimalTheme, twiceBook⟩ (.document (.list
        ((twiceBook.classify Settings.minimalTheme ["W1"]).map Classified.toValue))) := by
    have hatlas : twiceScene.atlas askedForDebug = _ := atlas_twiceScene ⟨rfl, rfl, rfl⟩
    refine ⟨rfl, hatlas, ?_⟩
    rw [Scene.prepare_classify_output rfl rfl]
    rfl
  have hstops := Delivery.stops_rows (twiceBook.classify Settings.minimalTheme ["W1"])
  obtain ⟨text, -, hwritten⟩ := Delivery.written_document hstops
  have houtput := (hdelivers.output rfl).2 hstops
  refine ⟨_, _, askedForNoLevel, askedForDebug, twiceScene, hread, hother, rfl, rfl,
    ⟨false, some .debug, rfl⟩, not_fails_twiceScene ⟨false, none, rfl⟩, rfl, hcode, ?_⟩
  rw [houtput, hwritten, run_of_no_level rfl]
  dsimp only
  intro hempty
  have hlength := congrArg String.length hempty
  rw [String.length_append, String.length_append] at hlength
  have hbreak : "\n".length = 1 := rfl
  omega

end Arguments

end DistrictAtlas
