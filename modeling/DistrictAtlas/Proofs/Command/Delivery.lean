import DistrictAtlas.Proofs.Command.Traces
import DistrictAtlas.Proofs.Json.Stopping

/-!
# Preparing and delivering an answer

Carrying out a command has two parts. First the answer is made, which leaves no trace but in the log;
then it is written to the file that it is asked for in, or put out. Only the second part touches the
file, and there it can fail only by the file itself, or by a number that is too long to be written or a
text that is torn.
-/

namespace DistrictAtlas

/-- What is delivered. -/
inductive Delivery where
  /-- A text. -/
  | text (text : String)
  /-- A document. -/
  | document (document : Value)

namespace Delivery

/-- What stops the writing, if anything does. -/
def hindrance? : Delivery → Option Json.Hindrance
  | .text _ => none
  | .document value => (Json.transcript value).2

/-- Whether anything stops the writing. -/
def stops (delivery : Delivery) : Bool := delivery.hindrance?.isSome

/-- What becomes of the writing. -/
def outcome (delivery : Delivery) : Except Failure Unit :=
  match delivery.hindrance? with
  | none => .ok ()
  | some hindrance => .error (.ofHindrance hindrance)

/-- What is written, as far as it is. -/
def written : Delivery → String
  | .text content => content
  | .document value =>
    match Json.transcript value with
    | (content, none) => content ++ "\n"
    | (content, some _) => content

/-- The writing fails exactly if something stops it. -/
theorem outcome_ne_ok_iff (delivery : Delivery) :
    delivery.outcome ≠ .ok () ↔ delivery.stops = true := by
  unfold outcome stops
  cases delivery.hindrance? with
  | none => exact ⟨fun hne => absurd rfl hne, nofun⟩
  | some hindrance => exact ⟨fun _ => rfl, fun _ => nofun⟩

/-- The writing of a document without whole numbers and without torn texts does not stop. -/
theorem stops_document {value : Value} (hnumbers : value.numbers = [])
    (hwhole : value.isWhole = true) : (document value).stops = false := by
  refine Bool.eq_false_iff.mpr fun hstops => ?_
  rcases (Json.transcript_stops_iff value).mp hstops with ⟨n, hn, -⟩ | htorn
  · rw [hnumbers] at hn
    cases hn
  · rw [hwhole] at htorn
    cases htorn

/-- The writing of a classification does not stop. -/
theorem stops_rows (rows : List Classified) :
    (document (.list (rows.map Classified.toValue))).stops = false :=
  stops_document (Classified.numbers_rows rows) (Classified.isWhole_rows rows)

/-- The writing of descriptions does not stop. -/
theorem stops_descriptions (descriptions : List Description) :
    (document (.list (descriptions.map Description.toValue))).stops = false :=
  stops_document (Description.numbers_descriptions descriptions)
    (Description.isWhole_descriptions descriptions)

/-- What is written of a document that nothing stops is its JSON text. -/
theorem written_document {value : Value} (h : (document value).stops = false) :
    ∃ text, Json.render value = .ok text ∧ (document value).written = text ++ "\n" := by
  have hnone : (Json.transcript value).2 = none := Option.not_isSome_iff_eq_none.mp
    (Bool.eq_false_iff.mp h)
  obtain ⟨text, htranscript⟩ : ∃ text, Json.transcript value = (text, none) :=
    ⟨_, Prod.ext rfl hnone⟩
  refine ⟨text, Json.render_of_transcript htranscript, ?_⟩
  rw [written, htranscript]

end Delivery

namespace Scene

/-- Makes what the command delivers. -/
def prepare (scene : Scene) (atlas : Atlas) (arguments : Arguments) : Step Delivery :=
  let out := arguments.options.out.text?
  match arguments.command with
  | .classify =>
    (scene.still (scene.codes arguments)).andThen fun scene codes =>
      let rows := atlas.book.classify atlas.theme codes
      ⟨scene, .ok (if out.isSome then .text (Classified.table rows)
        else .document (.list (rows.map Classified.toValue)))⟩
  | .describe =>
    (scene.still (scene.codes arguments)).andThen fun scene codes =>
      (scene.still ((describeAll atlas codes).mapError .number)).andThen fun scene descriptions =>
        ⟨scene, .ok (if out.isSome then .document (.list (descriptions.map Description.toValue))
          else .text ("\n\n".intercalate (descriptions.map Description.text) ++ "\n"))⟩
  | .style =>
    let document :=
      if out.isSome then atlas.book.paintSheet atlas.theme else atlas.book.paint atlas.theme
    (scene.still (document.mapError .tree)).andThen fun scene document =>
      ⟨scene, .ok (.document document)⟩
  | .inspect =>
    match arguments.options.areasManifest.text? with
    | none => ⟨scene, .ok (.document (atlas.book.inspection none))⟩
    | some location =>
      (scene.readAreas atlas location).andThen fun scene areas =>
        ⟨scene, .ok (.document (atlas.book.inspection (some areas)))⟩

/-- Writes what is delivered to a file, or puts it out. -/
def deposit (scene : Scene) (out : Option String) : Delivery → Step Unit
  | .text text =>
    match out with
    | some file => scene.save file text
    | none => ⟨scene.print text, .ok ()⟩
  | .document document => scene.deliver out document

/-- A command makes what it delivers, and then delivers it. -/
theorem execute_eq (scene : Scene) (atlas : Atlas) (arguments : Arguments) :
    scene.execute atlas arguments = (scene.prepare atlas arguments).andThen fun scene delivery =>
      scene.deposit arguments.options.out.text? delivery := by
  unfold execute prepare
  cases arguments.command with
  | classify =>
    unfold classify Step.andThen still
    cases scene.codes arguments with
    | error failure => rfl
    | ok codes =>
      cases hout : arguments.options.out.text? with
      | none => rfl
      | some file => rfl
  | describe =>
    unfold describe Step.andThen still
    cases scene.codes arguments with
    | error failure => rfl
    | ok codes =>
      dsimp only
      cases (describeAll atlas codes).mapError Failure.number with
      | error failure => rfl
      | ok descriptions =>
        cases hout : arguments.options.out.text? with
        | none => rfl
        | some file => rfl
  | style =>
    unfold style Step.andThen still
    dsimp only
    split <;> rfl
  | inspect =>
    unfold inspect
    dsimp only
    cases arguments.options.areasManifest.text? with
    | none => rfl
    | some location =>
      unfold Step.andThen
      dsimp only
      cases (scene.readAreas atlas location).result with
      | error failure => rfl
      | ok areas => rfl

/-- Without a file, a classification is delivered as a document of its rows. -/
theorem prepare_classify_output {arguments : Arguments} (hcommand : arguments.command = .classify)
    (hout : arguments.options.out.text? = none) (scene : Scene) (atlas : Atlas) :
    (scene.prepare atlas arguments).result = (scene.codes arguments).map fun codes =>
      .document (.list ((atlas.book.classify atlas.theme codes).map Classified.toValue)) := by
  unfold prepare Step.andThen still
  rw [hcommand, hout]
  cases scene.codes arguments <;> rfl

/-- A classification for a file is delivered as a text. -/
theorem prepare_classify_file {arguments : Arguments} (hcommand : arguments.command = .classify)
    {file : String} (hout : arguments.options.out.text? = some file) (scene : Scene)
    (atlas : Atlas) :
    (scene.prepare atlas arguments).result = (scene.codes arguments).map fun codes =>
      .text (Classified.table (atlas.book.classify atlas.theme codes)) := by
  unfold prepare Step.andThen still
  rw [hcommand, hout]
  cases scene.codes arguments <;> rfl

/-- With a file, descriptions are delivered as one document. -/
theorem prepare_describe_file {arguments : Arguments} {file : String}
    (hcommand : arguments.command = .describe)
    (hout : arguments.options.out.text? = some file) (scene : Scene) (atlas : Atlas) :
    (scene.prepare atlas arguments).result = (scene.codes arguments).bind fun codes =>
      ((describeAll atlas codes).mapError .number).map fun descriptions =>
        .document (.list (descriptions.map Description.toValue)) := by
  unfold prepare Step.andThen still
  rw [hcommand, hout]
  cases scene.codes arguments with
  | error failure => rfl
  | ok codes =>
    dsimp only [Except.bind]
    cases describeAll atlas codes <;> rfl

/-- Making what a command delivers leaves no trace but in the log. -/
theorem onlyLogs_prepare (scene : Scene) (atlas : Atlas) (arguments : Arguments) :
    OnlyLogs scene (scene.prepare atlas arguments).scene := by
  unfold prepare
  cases arguments.command with
  | classify =>
    apply Step.andThen_scene OnlyLogs OnlyLogs.trans
    · exact .refl scene
    · exact fun codes _ => .refl scene
  | describe =>
    apply Step.andThen_scene OnlyLogs OnlyLogs.trans
    · exact .refl scene
    · intro codes _
      apply Step.andThen_scene OnlyLogs OnlyLogs.trans
      · exact .refl scene
      · exact fun descriptions _ => .refl scene
  | style =>
    apply Step.andThen_scene OnlyLogs OnlyLogs.trans
    · exact .refl scene
    · exact fun document _ => .refl scene
  | inspect =>
    dsimp only
    cases arguments.options.areasManifest.text? with
    | none => exact .refl scene
    | some location =>
      apply Step.andThen_scene OnlyLogs OnlyLogs.trans
      · exact onlyLogs_readAreas scene atlas location
      · exact fun areas _ => .refl _

/-- What is delivered to a file is written there, and something may stop the writing then. -/
theorem deposit_file (scene : Scene) (file : String) (delivery : Delivery) :
    scene.deposit (some file) delivery =
      (scene.save file delivery.written).andThen fun scene _ => ⟨scene, delivery.outcome⟩ := by
  have hdone : ∀ step : Step Unit,
      step = step.andThen fun scene _ => ⟨scene, .ok ()⟩ := by
    rintro ⟨scene, result⟩
    cases result <;> rfl
  cases delivery with
  | text text => exact hdone _
  | document document =>
    rcases htranscript : Json.transcript document with ⟨text, hindrance⟩
    have hstops : (Delivery.document document).hindrance? = hindrance :=
      congrArg Prod.snd htranscript
    unfold deposit deliver saveDocument Delivery.written Delivery.outcome
    dsimp only
    rw [htranscript, hstops]
    cases hindrance with
    | none => exact hdone _
    | some hindrance => rfl

/-- What is delivered without a file is put out as a whole. -/
theorem deposit_output (scene : Scene) {delivery : Delivery} (h : delivery.stops = false) :
    scene.deposit none delivery = ⟨scene.print delivery.written, .ok ()⟩ := by
  cases delivery with
  | text text => rfl
  | document document =>
    obtain ⟨text, hrender, hwritten⟩ := Delivery.written_document h
    unfold deposit deliver printDocument
    dsimp only
    rw [hrender, hwritten]

/-- If anything stops it, it is not put out at all, in whatever scene. -/
theorem deposit_output_of_stops {delivery : Delivery} (h : delivery.stops = true) :
    ∃ failure, ∀ scene : Scene, scene.deposit none delivery = ⟨scene, .error failure⟩ := by
  cases delivery with
  | text text => cases h
  | document document =>
    obtain ⟨hindrance, hrender⟩ := Json.render_of_stopped h
    refine ⟨.ofHindrance hindrance, fun scene => ?_⟩
    unfold deposit deliver printDocument
    dsimp only
    rw [hrender]

/-- The file at a path holds a text, unless the log lies there. -/
def Holds (scene : Scene) (file text : String) : Prop :=
  ∃ place, scene.files.locate (Path.read file) = .ok place ∧
    (¬scene.LogsAt place → scene.files.bytesAt? place = some (Utf8.encode text))

/-- What a file holds stays in it while there is only logged. -/
theorem Holds.onlyLogs {scene later : Scene} {file text : String} (h : scene.Holds file text)
    (hlater : OnlyLogs scene later) : later.Holds file text := by
  obtain ⟨place, hlocate, hbytes⟩ := h
  refine ⟨place, hlater.files.directories.locate hlocate, fun hfree => ?_⟩
  rw [hlater.files.bytes place hfree]
  exact hbytes fun hlog => hfree (hlater.logsAt hlog)

/-- Saving a text leaves the log as it is. -/
theorem continues_save (scene : Scene) (file text : String) :
    Continues scene (scene.save file text).scene := by
  unfold save
  cases scene.files.write (Path.read file) text with
  | error fault => exact .refl scene
  | ok files => exact ⟨rfl, rfl, List.prefix_refl _⟩

/-- Saving a text fails and changes nothing, or the file holds the text and no other file changed.
-/
theorem save_cases (scene : Scene) (file text : String) :
    (∃ failure, scene.save file text = ⟨scene, .error failure⟩) ∨
      ∃ saved, scene.save file text = ⟨saved, .ok ()⟩ ∧ saved.Holds file text ∧
        Files.KeepsBut scene.files saved.files fun place =>
          saved.files.locate (Path.read file) = .ok place := by
  unfold save
  cases hwrite : scene.files.write (Path.read file) text with
  | error fault => exact Or.inl ⟨_, rfl⟩
  | ok files =>
    obtain ⟨place, hlocate, hbytes, hkeeps⟩ := Files.keepsBut_of_write hwrite
    refine Or.inr ⟨{ scene with files }, rfl, ⟨place, hlocate, fun _ => hbytes⟩, ?_⟩
    refine hkeeps.mono fun other hother => ?_
    rw [hother]
    exact hlocate

/-- Delivering to a file fails and changes nothing, or the file holds what is written, no other file
changed, and it fails exactly if something stops the writing. -/
theorem deposit_file_cases (scene : Scene) (file : String) (delivery : Delivery) :
    (∃ failure, scene.deposit (some file) delivery = ⟨scene, .error failure⟩) ∨
      ∃ saved : Scene, (scene.deposit (some file) delivery).scene = saved ∧
        ((scene.deposit (some file) delivery).result ≠ .ok () ↔ delivery.stops = true) ∧
        saved.Holds file delivery.written ∧
        Files.KeepsBut scene.files saved.files fun place =>
          saved.files.locate (Path.read file) = .ok place := by
  rw [deposit_file]
  rcases save_cases scene file delivery.written with ⟨failure, hsave⟩ | ⟨saved, hsave, hholds⟩
  · rw [hsave]
    exact Or.inl ⟨failure, rfl⟩
  · rw [hsave]
    exact Or.inr ⟨saved, rfl, delivery.outcome_ne_ok_iff, hholds⟩

/-- Delivering leaves the log as it is. -/
theorem continues_deposit (scene : Scene) (out : Option String) (delivery : Delivery) :
    Continues scene (scene.deposit out delivery).scene := by
  cases out with
  | none =>
    cases hstops : delivery.stops with
    | true =>
      obtain ⟨failure, hdeposit⟩ := deposit_output_of_stops hstops
      rw [hdeposit]
      exact .refl scene
    | false =>
      rw [deposit_output scene hstops]
      exact ⟨rfl, rfl, List.prefix_refl _⟩
  | some file =>
    rw [deposit_file]
    apply Step.andThen_scene Continues Continues.trans
    · exact continues_save scene file _
    · exact fun _ _ => .refl _

/-- Carrying out a command keeps what was logged. -/
theorem continues_execute (scene : Scene) (atlas : Atlas) (arguments : Arguments) :
    Continues scene (scene.execute atlas arguments).scene := by
  rw [execute_eq]
  apply Step.andThen_scene Continues Continues.trans
  · exact (onlyLogs_prepare scene atlas arguments).toContinues
  · exact fun delivery _ => continues_deposit _ _ delivery

end Scene

/-- A run ends with one of three codes. -/
theorem Exit.code_mem (exit : Exit) : exit.code ∈ [0, 10, 20] := by
  cases exit <;> decide

/-- The code of a failure is the only one of its kind. -/
theorem Exit.code_eq_twenty_iff {exit : Exit} : exit.code = 20 ↔ exit = .failure := by
  cases exit <;> decide

namespace Arguments

/-- The scene in which a command is carried out: all is loaded, and the beginning is logged. -/
def ready (arguments : Arguments) (started : Scene) : Scene :=
  (started.load arguments).scene.log (arguments.event "COMMAND_START" "command start")

/-- Until the command is carried out there is only logged. -/
theorem onlyLogs_ready (arguments : Arguments) (started : Scene) :
    Scene.OnlyLogs started (arguments.ready started) :=
  (Scene.onlyLogs_load started arguments).trans (Scene.onlyLogs_log _ _)

/-- A run comes to deliver something: it has a start, it loads an atlas, and there the command makes
what is delivered. -/
structure Delivers (arguments : Arguments) (scene started : Scene) (atlas : Atlas)
    (delivery : Delivery) : Prop where
  /-- The run has a start. -/
  starts : arguments.started? scene = some started
  /-- The atlas is loaded. -/
  loads : started.atlas arguments = .ok atlas
  /-- The command makes what is delivered. -/
  makes : ((arguments.ready started).prepare atlas arguments).result = .ok delivery

/-- Once a run has loaded, it carries out its command. -/
theorem run_of_atlas {arguments : Arguments} {scene started : Scene} {atlas : Atlas}
    (hstarted : arguments.started? scene = some started)
    (hatlas : started.atlas arguments = .ok atlas) :
    arguments.run scene = arguments.runLoaded (started.load arguments).scene atlas := by
  rcases run_eq arguments scene with ⟨other, hother, hrun⟩ | ⟨hnone, -⟩
  · rw [hstarted] at hother
    cases hother
    rw [hrun, runLogged, Scene.load_result, hatlas]
  · rw [hstarted] at hnone
    cases hnone

/-- A command that fails ends the run, and this is logged. -/
theorem runLoaded_of_error {arguments : Arguments} {scene : Scene} {atlas : Atlas}
    {failure : Failure}
    (h : ((scene.log (arguments.event "COMMAND_START" "command start")).execute atlas
      arguments).result = .error failure) :
    arguments.runLoaded scene atlas = ⟨.failure,
      ((scene.log (arguments.event "COMMAND_START" "command start")).execute atlas
        arguments).scene.log (failure.event arguments.command.name "COMMAND_FAIL"
          "command failed: ")⟩ := by
  unfold runLoaded
  dsimp only
  rw [h]

/-- A command that is carried out ends the run, and this is logged. -/
theorem runLoaded_of_ok {arguments : Arguments} {scene : Scene} {atlas : Atlas} {done : Unit}
    (h : ((scene.log (arguments.event "COMMAND_START" "command start")).execute atlas
      arguments).result = .ok done) :
    arguments.runLoaded scene atlas = ⟨arguments.exitFor atlas.book,
      ((scene.log (arguments.event "COMMAND_START" "command start")).execute atlas
        arguments).scene.log (arguments.event "COMMAND_END" "command end")⟩ := by
  unfold runLoaded
  dsimp only
  rw [h]

/-- A command that was carried out is no failure. -/
theorem exitFor_ne_failure (arguments : Arguments) (book : Rulebook) :
    arguments.exitFor book ≠ .failure := by
  unfold exitFor
  split <;> exact Exit.noConfusion

/-- A run whose command is carried out fails while it makes what it delivers, with no trace but in
the log, or it comes to the delivery and fails exactly if this does. -/
theorem runLoaded_cases (arguments : Arguments) (scene : Scene) (atlas : Atlas) :
    let start := scene.log (arguments.event "COMMAND_START" "command start")
    let last := arguments.runLoaded scene atlas
    ((∃ failure, (start.prepare atlas arguments).result = .error failure) ∧
        last.exit = .failure ∧ Scene.OnlyLogs scene last.scene) ∨
      ∃ delivery, (start.prepare atlas arguments).result = .ok delivery ∧
        let delivered := (start.prepare atlas arguments).scene.deposit
          arguments.options.out.text? delivery
        delivered.scene.OnlyLogs last.scene ∧
          (last.exit = .failure ↔ delivered.result ≠ .ok ()) := by
  intro start last
  have hstart : Scene.OnlyLogs scene (start.prepare atlas arguments).scene :=
    (Scene.onlyLogs_log scene _).trans (Scene.onlyLogs_prepare start atlas arguments)
  have hexecute := Scene.execute_eq start atlas arguments
  cases hprepare : (start.prepare atlas arguments).result with
  | error failure =>
    rw [Step.andThen, hprepare] at hexecute
    have hlast : last = _ := runLoaded_of_error (congrArg Step.result hexecute)
    rw [hlast, hexecute]
    exact Or.inl ⟨⟨failure, rfl⟩, rfl, hstart.trans (Scene.onlyLogs_log _ _)⟩
  | ok delivery =>
    rw [Step.andThen, hprepare] at hexecute
    dsimp only at hexecute
    refine Or.inr ⟨delivery, rfl, ?_⟩
    rw [← hexecute]
    dsimp only
    cases hresult : (start.execute atlas arguments).result with
    | error failure =>
      have hlast : last = _ := runLoaded_of_error hresult
      rw [hlast]
      exact ⟨Scene.onlyLogs_log _ _, fun _ => nofun, fun _ => rfl⟩
    | ok done =>
      have hlast : last = _ := runLoaded_of_ok hresult
      rw [hlast]
      refine ⟨Scene.onlyLogs_log _ _, fun hfail => ?_, fun hne => absurd rfl hne⟩
      exact absurd hfail (exitFor_ne_failure arguments atlas.book)

/-- The scene in which a run delivers. -/
def prepared (arguments : Arguments) (started : Scene) (atlas : Atlas) : Scene :=
  ((arguments.ready started).prepare atlas arguments).scene

/-- Until a run delivers there is only logged. -/
theorem onlyLogs_prepared (arguments : Arguments) (started : Scene) (atlas : Atlas) :
    Scene.OnlyLogs started (arguments.prepared started atlas) :=
  (onlyLogs_ready arguments started).trans (Scene.onlyLogs_prepare _ atlas arguments)

/-- A run that delivers fails exactly if the delivery does, and logs only behind it. -/
theorem Delivers.run {arguments : Arguments} {scene started : Scene} {atlas : Atlas}
    {delivery : Delivery} (h : arguments.Delivers scene started atlas delivery) :
    let delivered := (arguments.prepared started atlas).deposit arguments.options.out.text? delivery
    delivered.scene.OnlyLogs (arguments.run scene).scene ∧
      ((arguments.run scene).exit = .failure ↔ delivered.result ≠ .ok ()) := by
  rw [run_of_atlas h.starts h.loads]
  rcases runLoaded_cases arguments (started.load arguments).scene atlas with
    ⟨⟨failure, hfailure⟩, -⟩ | ⟨other, hother, hrun⟩
  · have hprepared := h.makes
    unfold ready at hprepared
    rw [hfailure] at hprepared
    cases hprepared
  · have hsame : other = delivery := Except.ok.inj (hother.symm.trans h.makes)
    rw [hsame] at hrun
    exact hrun

/-- A run fails before it delivers, with no trace but in the log, or it comes to deliver something. -/
theorem run_cases (arguments : Arguments) (scene : Scene) :
    ((arguments.run scene).exit = .failure ∧ scene.KeepsButLog (arguments.run scene).scene) ∨
      ∃ started atlas delivery, arguments.Delivers scene started atlas delivery := by
  rcases run_eq arguments scene with ⟨started, hstarted, hrun⟩ | ⟨-, least, hrun⟩
  · have hkeeps := keepsButLog_started hstarted
    have hload := Scene.onlyLogs_load started arguments
    cases hatlas : started.atlas arguments with
    | error failure =>
      rw [hrun, runLogged, Scene.load_result, hatlas]
      refine Or.inl ⟨rfl, ?_⟩
      dsimp only
      split
      · exact hkeeps.trans (hload.trans (Scene.onlyLogs_log _ _))
      · exact hkeeps.trans hload
    | ok atlas =>
      rcases runLoaded_cases arguments (started.load arguments).scene atlas with
        ⟨-, hfail, honly⟩ | ⟨delivery, hprepare, -⟩
      · rw [run_of_atlas hstarted hatlas]
        exact Or.inl ⟨hfail, hkeeps.trans (hload.trans honly)⟩
      · exact Or.inr ⟨started, atlas, delivery, hstarted, hatlas, hprepare⟩
  · rw [hrun]
    exact Or.inl ⟨rfl, rfl, .refl _ _⟩

section Success

variable {arguments : Arguments} {scene started : Scene} {atlas : Atlas} {delivery : Delivery}

/-- A run that does not fail delivers something. -/
theorem exists_delivers (h : (arguments.run scene).exit ≠ .failure) :
    ∃ started atlas delivery, arguments.Delivers scene started atlas delivery := by
  rcases run_cases arguments scene with ⟨hfail, -⟩ | hdelivers
  · exact absurd hfail h
  · exact hdelivers

/-- A run that is asked for no file fails exactly if something stops what it delivers, and puts out
all of it otherwise. -/
theorem Delivers.output (h : arguments.Delivers scene started atlas delivery)
    (hout : arguments.options.out.text? = none) :
    ((arguments.run scene).exit = .failure ↔ delivery.stops = true) ∧
      (delivery.stops = false →
        (arguments.run scene).scene.output = scene.output ++ delivery.written) := by
  have hstarted := keepsButLog_started h.starts
  have hprepared := hstarted.trans (onlyLogs_prepared arguments started atlas)
  obtain ⟨honly, hfails⟩ := h.run
  rw [hout] at honly hfails
  cases hstops : delivery.stops with
  | true =>
    obtain ⟨failure, hdeposit⟩ := Scene.deposit_output_of_stops hstops
    rw [hdeposit] at hfails
    exact ⟨⟨fun _ => rfl, fun _ => hfails.mpr nofun⟩, nofun⟩
  | false =>
    rw [Scene.deposit_output _ hstops] at honly hfails
    refine ⟨⟨fun hfail => absurd rfl (hfails.mp hfail), nofun⟩, fun _ => ?_⟩
    rw [honly.output, ← hprepared.output]
    rfl

/-- A run that is asked for a file and does not fail leaves there all that it delivers. -/
theorem Delivers.holds {file : String} (h : arguments.Delivers scene started atlas delivery)
    (hout : arguments.options.out.text? = some file)
    (hexit : (arguments.run scene).exit ≠ .failure) :
    delivery.stops = false ∧ (arguments.run scene).scene.Holds file delivery.written := by
  obtain ⟨honly, hfails⟩ := h.run
  rw [hout] at honly hfails
  rcases Scene.deposit_file_cases (arguments.prepared started atlas) file delivery with
    ⟨failure, hdeposit⟩ | ⟨saved, hsaved, hstops, hholds, -⟩
  · rw [hdeposit] at hfails
    exact absurd (hfails.mpr nofun) hexit
  · rw [hsaved] at honly
    refine ⟨?_, hholds.onlyLogs honly⟩
    exact Bool.eq_false_iff.mpr fun htrue => hexit (hfails.mpr (hstops.mpr htrue))

/-- A run that is asked for a file that can be written, and logs to none, fails exactly if something
stops what it delivers, and leaves the files with what is written. -/
theorem Delivers.writes {file : String} {written : Files}
    (h : arguments.Delivers scene started atlas delivery)
    (hout : arguments.options.out.text? = some file) (hlog : started.logPath = none)
    (hwrite : started.files.write (Path.read file) delivery.written = .ok written) :
    ((arguments.run scene).exit = .failure ↔ delivery.stops = true) ∧
      (arguments.run scene).scene.files = written := by
  have hprepared := onlyLogs_prepared arguments started atlas
  obtain ⟨honly, hfails⟩ := h.run
  have hdeposit : (arguments.prepared started atlas).deposit (some file) delivery =
      ⟨{ arguments.prepared started atlas with files := written }, delivery.outcome⟩ := by
    rw [Scene.deposit_file, Scene.save, hprepared.unlogged hlog, hwrite]
    rfl
  rw [hout, hdeposit] at honly hfails
  constructor
  · exact hfails.trans delivery.outcome_ne_ok_iff
  · exact honly.unlogged (hprepared.logPath.trans hlog)

end Success

end Arguments

end DistrictAtlas
