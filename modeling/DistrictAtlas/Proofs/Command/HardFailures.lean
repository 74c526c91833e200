import DistrictAtlas.Proofs.Command.Delivery
import DistrictAtlas.Proofs.Command.KeptErrors

/-!
# Hard failures in the log

A run that fails tells so in its log, by an event at the level of errors, if what it loads fails for
a foreseen reason or if its command fails, for whatever reason. Command lines cannot ask for a level
at which errors are left out. What nobody foresaw while loading ends the run without a word.
-/

namespace DistrictAtlas

/-- An event tells that the run failed. -/
def Event.TellsFailure (event : Event) : Prop :=
  event.level = .error ∧ (event.name = some "LOAD_FAIL" ∨ event.name = some "COMMAND_FAIL")

namespace Arguments

/-- What a run loads fails for a reason that nobody foresaw. -/
def FailsUnforeseen (arguments : Arguments) (scene : Scene) : Prop :=
  ∃ failure, (scene.load arguments).result = .error failure ∧ failure.isForeseen = false

/-- A scene is followed by one in whose log there is more, and this tells of a failure. -/
def Tells (scene later : Scene) : Prop :=
  ∃ added, later.logged = scene.logged ++ added ∧ ∃ event ∈ added, event.TellsFailure

/-- Logging that the run failed tells so, if the log keeps errors. -/
theorem tells_log {scene later : Scene} {event : Event} (hcontinues : scene.Continues later)
    (hleast : scene.least.rank ≤ Level.error.rank) (hevent : event.TellsFailure) :
    Tells scene (later.log event) := by
  have hkept : event.isKept later.least = true := by
    unfold Event.isKept
    rw [hcontinues.least, hevent.1]
    exact decide_eq_true hleast
  obtain ⟨added, hadded⟩ := hcontinues.logged
  refine ⟨added ++ [event], ?_, event, List.mem_append_right _ (List.mem_singleton_self _), hevent⟩
  rw [Scene.logged_log hkept, ← hadded, List.append_assoc]

/-- A command that fails tells so in a log that keeps errors. -/
theorem tells_of_runLoaded {arguments : Arguments} {scene : Scene} {atlas : Atlas}
    (hleast : scene.least.rank ≤ Level.error.rank)
    (hfail : (arguments.runLoaded scene atlas).exit = .failure) :
    Tells scene (arguments.runLoaded scene atlas).scene := by
  have hstart := Scene.onlyLogs_log scene (arguments.event "COMMAND_START" "command start")
  have hcontinues := hstart.toContinues.trans (Scene.continues_execute _ atlas arguments)
  cases hresult : ((scene.log (arguments.event "COMMAND_START" "command start")).execute atlas
      arguments).result with
  | error failure =>
    rw [runLoaded_of_error hresult]
    exact tells_log hcontinues hleast ⟨rfl, Or.inr rfl⟩
  | ok done =>
    rw [runLoaded_of_ok hresult] at hfail
    exact absurd hfail (exitFor_ne_failure arguments atlas.book)

/-- A run whose log is open tells that it failed, unless the failure was unforeseen while loading,
and then it leaves the log as it was. -/
theorem runLogged_tells (arguments : Arguments) (scene : Scene)
    (hleast : scene.least.rank ≤ Level.error.rank) :
    (arguments.FailsUnforeseen scene → (arguments.runLogged scene).exit = .failure ∧
        (arguments.runLogged scene).scene.logged = scene.logged) ∧
      (¬arguments.FailsUnforeseen scene → (arguments.runLogged scene).exit = .failure →
        Tells scene (arguments.runLogged scene).scene) := by
  have hload := Scene.onlyLogs_load scene arguments
  unfold runLogged
  dsimp only
  cases hresult : (scene.load arguments).result with
  | ok atlas =>
    constructor
    · rintro ⟨failure, hfailure, -⟩
      rw [hresult] at hfailure
      cases hfailure
    · intro _ hfail
      have hleast' : (scene.load arguments).scene.least.rank ≤ Level.error.rank := by
        rw [hload.least]
        exact hleast
      obtain ⟨before, hbefore⟩ := hload.logged
      obtain ⟨added, hadded, event, hmem, htells⟩ := tells_of_runLoaded hleast' hfail
      refine ⟨before ++ added, ?_, event, List.mem_append_right _ hmem, htells⟩
      rw [hadded, ← hbefore, List.append_assoc]
  | error failure =>
    constructor
    · rintro ⟨other, hother, hunforeseen⟩
      rw [hresult] at hother
      cases hother
      dsimp only
      rw [hunforeseen, if_neg Bool.false_ne_true]
      exact ⟨rfl, Scene.load_logged_of_unforeseen hresult hunforeseen⟩
    · intro hnot _
      have hforeseen : failure.isForeseen = true := by
        cases hfailure : failure.isForeseen with
        | true => rfl
        | false => exact absurd ⟨failure, hresult, hfailure⟩ hnot
      dsimp only
      rw [if_pos hforeseen]
      exact tells_log hload.toContinues hleast ⟨rfl, Or.inl rfl⟩

/-- A command line that is accepted and names no file for the log ends with one of the three codes.
Nothing at all is logged if it was left open what to log, or if what it loads fails for a reason that
nobody foresaw, and these runs fail; any other run that fails tells so at the level of errors. -/
theorem hard_failure_told_unless_unforeseen {words : List String} {arguments : Arguments}
    (hread : read words = .ok arguments) (hlog : arguments.options.logFile = .nothing)
    (scene : Scene) :
    (arguments.run scene).exit.code ∈ [0, 10, 20] ∧
      (arguments.options.logLevel = none ∨ arguments.FailsUnforeseen scene →
        (arguments.run scene).exit.code = 20 ∧
          (arguments.run scene).scene.logged = scene.logged) ∧
      (¬(arguments.options.logLevel = none ∨ arguments.FailsUnforeseen scene) →
        (arguments.run scene).exit.code = 20 →
          ∃ added, (arguments.run scene).scene.logged = scene.logged ++ added ∧
            ∃ event ∈ added, event.TellsFailure) := by
  refine ⟨Exit.code_mem _, ?_⟩
  simp only [Exit.code_eq_twenty_iff]
  unfold run
  rw [hlog]
  cases hlevel : arguments.options.logLevel with
  | none => exact ⟨fun _ => ⟨rfl, rfl⟩, fun hnot => absurd (Or.inl rfl) hnot⟩
  | some level =>
    have hleast : level.rank ≤ Level.error.rank := keepsErrors_of_read hread level hlevel
    have hsame : arguments.FailsUnforeseen { scene with least := level } ↔
        arguments.FailsUnforeseen scene := by
      unfold FailsUnforeseen
      rw [Scene.load_result, Scene.load_result]
      exact Iff.rfl
    obtain ⟨hsilent, htells⟩ :=
      runLogged_tells arguments { scene with least := level } hleast
    simp only [hsame] at hsilent htells
    constructor
    · rintro (hnone | hunforeseen)
      · cases hnone
      · exact hsilent hunforeseen
    · intro hnot
      exact htells fun hunforeseen => hnot (Or.inr hunforeseen)

/-- A question about one code. -/
def askedForOne : Arguments :=
  { command := .classify, territories := some "t.csv", codes := ["W1"] }

/-- Where there are no files at all, the settings are missing. This is foreseen, and told. -/
theorem missing_settings_told :
    read ["classify", "t.csv", "W1"] = .ok askedForOne ∧
      askedForOne.options.logFile = .nothing ∧
      (askedForOne.run (.offline {})).exit.code = 20 ∧
      ∃ event ∈ (askedForOne.run (.offline {})).scene.logged, event.TellsFailure := by
  have hread : read ["classify", "t.csv", "W1"] = .ok askedForOne := by decide +kernel
  have hlog : askedForOne.options.logFile = .nothing := rfl
  have hcode : (askedForOne.run (.offline {})).exit.code = 20 := by decide +kernel
  have htheme : (Scene.offline {}).theme askedForOne =
      .error (.settings (.fault (.missingFile "config/style.yml"))) := by decide +kernel
  have htold : ¬(askedForOne.options.logLevel = none ∨
      askedForOne.FailsUnforeseen (.offline {})) := by
    rintro (hlevel | ⟨failure, hfailure, hunforeseen⟩)
    · cases hlevel
    · rw [Scene.load_result, Scene.atlas, htheme] at hfailure
      cases hfailure
      cases hunforeseen
  obtain ⟨-, -, htells⟩ := hard_failure_told_unless_unforeseen hread hlog (.offline {})
  obtain ⟨added, hadded, event, hmem, hevent⟩ := htells htold hcode
  refine ⟨hread, hlog, hcode, event, ?_, hevent⟩
  rw [hadded]
  exact List.mem_append_right _ hmem

/-- Where a directory is in place of the settings, the run fails without a word. -/
theorem settings_directory_untold :
    ∃ (words : List String) (arguments : Arguments) (scene : Scene),
      read words = .ok arguments ∧ arguments.options.logFile = .nothing ∧
        (arguments.run scene).exit.code = 20 ∧
        ¬∃ event ∈ (arguments.run scene).scene.logged, event.TellsFailure := by
  let files := Files.ofList [("config/style.yml", none)]
  have hread : read ["classify", "t.csv", "W1"] = .ok askedForOne := by decide +kernel
  have hcode : (askedForOne.run (.offline files)).exit.code = 20 := by decide +kernel
  have hlogged : (askedForOne.run (.offline files)).scene.logged = [] := by decide +kernel
  refine ⟨["classify", "t.csv", "W1"], askedForOne, .offline files, hread, rfl, hcode, ?_⟩
  rw [hlogged]
  rintro ⟨event, hmem, -⟩
  cases hmem

end Arguments

end DistrictAtlas
