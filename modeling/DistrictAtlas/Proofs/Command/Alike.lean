import DistrictAtlas.Proofs.Command.Delivery

/-!
# Runs that differ in their logs

Two scenes without a file for the log are alike if they differ only in what is logged of them, and in
when and from which level on this is done. Every step of a run gives the same in scenes that are alike,
and leaves scenes that are alike again, whatever it logs.
-/

namespace DistrictAtlas

namespace Scene

/-- Two scenes differ in their logs at most, and neither log goes to a file. -/
structure Alike (scene other : Scene) : Prop where
  /-- They have the same files. -/
  files : other.files = scene.files
  /-- The same comes of the next requests. -/
  network : other.network = scene.network
  /-- They rely on the same. -/
  host : other.host = scene.host
  /-- The same was put out. -/
  output : other.output = scene.output
  /-- The first log has no file. -/
  unlogged : scene.logPath = none
  /-- The second log has none. -/
  otherUnlogged : other.logPath = none

end Scene

/-- Two steps give the same, and the scenes that they leave are alike. -/
structure Step.Alike {α : Type} (step other : Step α) : Prop where
  /-- The scenes are alike. -/
  scene : step.scene.Alike other.scene
  /-- The results are the same. -/
  result : other.result = step.result

/-- Steps that are alike stay so when both go on with steps that are alike. -/
theorem Step.Alike.andThen {α β : Type} {step other : Step α} {next : Scene → α → Step β}
    (h : step.Alike other)
    (hnext : ∀ {scene other : Scene} (value : α), scene.Alike other →
      (next scene value).Alike (next other value)) :
    (step.andThen next).Alike (other.andThen next) := by
  unfold Step.andThen
  rw [h.result]
  cases step.result with
  | ok value => exact hnext value h.scene
  | error failure => exact ⟨h.scene, rfl⟩

namespace Scene.Alike

variable {scene other : Scene}

/-- A scene whose log has no file is like itself. -/
theorem refl (h : scene.logPath = none) : scene.Alike scene :=
  ⟨rfl, rfl, rfl, rfl, h, h⟩

/-- Of two scenes that are alike each is like the other. -/
theorem symm (h : scene.Alike other) : other.Alike scene :=
  ⟨h.files.symm, h.network.symm, h.host.symm, h.output.symm, h.otherUnlogged, h.unlogged⟩

/-- Scenes that are like the same scene are alike. -/
theorem trans {last : Scene} (h : scene.Alike other) (hlast : other.Alike last) :
    scene.Alike last :=
  ⟨hlast.files.trans h.files, hlast.network.trans h.network, hlast.host.trans h.host,
    hlast.output.trans h.output, h.unlogged, hlast.otherUnlogged⟩

/-- Scenes stay alike when something is logged in one of them. -/
theorem log (h : scene.Alike other) (event : Event) : scene.Alike (other.log event) := by
  have honly := onlyLogs_log other event
  exact ⟨(honly.unlogged h.otherUnlogged).trans h.files, (log_network _ _).trans h.network,
    (log_host _ _).trans h.host, (log_output _ _).trans h.output, h.unlogged, honly.logPath.trans h.otherUnlogged⟩

/-- Scenes stay alike when something is logged in both. -/
theorem logBoth (h : scene.Alike other) (event event' : Event) :
    (scene.log event).Alike (other.log event') :=
  (h.symm.log event).symm.log event'

/-- Scenes stay alike when the same events are logged one after the other. -/
theorem logAll (h : scene.Alike other) (events : List Event) :
    (scene.logAll events).Alike (other.logAll events) := by
  unfold Scene.logAll
  induction events generalizing scene other with
  | nil => exact h
  | cons event rest ih => exact ih (h.logBoth event event)

/-- Scenes stay alike when the same is put out. -/
theorem print (h : scene.Alike other) (text : String) :
    (scene.print text).Alike (other.print text) :=
  ⟨h.files, h.network, h.host, congrArg (· ++ text) h.output, h.unlogged, h.otherUnlogged⟩

/-- What leaves scenes as they are leaves them alike. -/
theorem still {α : Type} (h : scene.Alike other) {result otherResult : Except Failure α}
    (hresult : otherResult = result) : (scene.still result).Alike (other.still otherResult) :=
  ⟨h, hresult⟩

/-- The same table is read. -/
theorem readTable (h : scene.Alike other) (location : String) :
    (scene.readTable location).Alike (other.readTable location) := by
  have hfetched : Source.table other.host.library other.files {} location other.network =
      Source.table scene.host.library scene.files {} location scene.network := by
    rw [h.host, h.files, h.network]
  exact ⟨⟨h.files, congrArg (·.network) hfetched, h.host, h.output, h.unlogged, h.otherUnlogged⟩,
    congrArg (·.result) hfetched⟩

/-- The same areas are read. -/
theorem readAreas (h : scene.Alike other) (atlas : Atlas) (location : String) :
    (scene.readAreas atlas location).Alike (other.readAreas atlas location) := by
  have hfetched : atlas.areas other.host.library other.files location other.network =
      atlas.areas scene.host.library scene.files location scene.network := by
    rw [h.host, h.files, h.network]
  unfold Scene.readAreas
  rw [hfetched]
  dsimp only
  have hread : ∀ network, Alike { scene with network } { other with network } :=
    fun _ => ⟨h.files, rfl, h.host, h.output, h.unlogged, h.otherUnlogged⟩
  cases (atlas.areas scene.host.library scene.files location scene.network).result with
  | error failure => exact ⟨hread _, rfl⟩
  | ok areas => exact ⟨(hread _).logAll areas.events, rfl⟩

/-- The same is loaded. -/
theorem load (h : scene.Alike other) (arguments : Arguments) :
    (scene.load arguments).Alike (other.load arguments) := by
  have htheme : other.theme arguments = scene.theme arguments := by
    unfold Scene.theme
    rw [h.host, h.files]
  rw [load_eq, load_eq]
  refine (h.still htheme).andThen fun theme h => ?_
  exact (h.readTable arguments.location).andThen fun text h => ⟨h.logAll _, rfl⟩

/-- The same codes are asked for. -/
theorem codes (h : scene.Alike other) (arguments : Arguments) :
    other.codes arguments = scene.codes arguments := by
  unfold Scene.codes
  rw [h.files]

/-- The command makes the same. -/
theorem prepare (h : scene.Alike other) (atlas : Atlas) (arguments : Arguments) :
    (scene.prepare atlas arguments).Alike (other.prepare atlas arguments) := by
  unfold Scene.prepare
  cases arguments.command with
  | classify => exact (h.still (h.codes arguments)).andThen fun codes h => ⟨h, rfl⟩
  | describe =>
    refine (h.still (h.codes arguments)).andThen fun codes h => ?_
    exact (h.still rfl).andThen fun descriptions h => ⟨h, rfl⟩
  | style => exact (h.still rfl).andThen fun document h => ⟨h, rfl⟩
  | inspect =>
    dsimp only
    cases arguments.options.areasManifest.text? with
    | none => exact ⟨h, rfl⟩
    | some location => exact (h.readAreas atlas location).andThen fun areas h => ⟨h, rfl⟩

/-- The same is saved. -/
theorem save (h : scene.Alike other) (file text : String) :
    (scene.save file text).Alike (other.save file text) := by
  unfold Scene.save
  rw [h.files]
  cases scene.files.write (Path.read file) text with
  | error fault => exact ⟨h, rfl⟩
  | ok files => exact ⟨⟨rfl, h.network, h.host, h.output, h.unlogged, h.otherUnlogged⟩, rfl⟩

/-- The same is delivered. -/
theorem deposit (h : scene.Alike other) (out : Option String) (delivery : Delivery) :
    (scene.deposit out delivery).Alike (other.deposit out delivery) := by
  cases out with
  | none =>
    cases hstops : delivery.stops with
    | false =>
      rw [deposit_output scene hstops, deposit_output other hstops]
      exact ⟨h.print delivery.written, rfl⟩
    | true =>
      obtain ⟨failure, hdeposit⟩ := deposit_output_of_stops hstops
      rw [hdeposit scene, hdeposit other]
      exact ⟨h, rfl⟩
  | some file =>
    rw [deposit_file, deposit_file]
    exact (h.save file delivery.written).andThen fun _ h => ⟨h, rfl⟩

/-- The command is carried out with the same result. -/
theorem execute (h : scene.Alike other) (atlas : Atlas) (arguments : Arguments) :
    (scene.execute atlas arguments).Alike (other.execute atlas arguments) := by
  rw [execute_eq, execute_eq]
  exact (h.prepare atlas arguments).andThen fun delivery h => h.deposit _ delivery

end Scene.Alike

end DistrictAtlas
