import CheckPlan.CommandLine.Execute
import CheckPlan.Proofs.Run.AtTime

namespace CheckPlan.CommandLine

open FileView Run.Request

/-- Whether the time is to be written: the settings do not switch it off, and the
    command line does not. -/
def Options.WritesTime (options : Options) (preferences : Preferences) : Prop :=
  preferences.timestamp ≠ some false ∧ options.noTimestamp = false

/-- The request is made of the command line, the settings and the defaults, each
    value of the first of them that gives it. -/
structure Layered (options : Options) (preferences : Preferences) (time : Text)
    (request : Run.Request) : Prop where
  catalog : request.catalog =
    (options.catalog.or preferences.catalog).getD "checks.cfg".toList
  assignments : request.assignments =
    (options.assignments.or preferences.assignments).getD "hosts.cfg".toList
  output : request.output =
    (options.output.or preferences.output).getD "services.cfg".toList
  dryRun : request.dryRun = options.dryRun
  generator : request.rendering.header.generator =
    preferences.generator.getD "checkgen".toList
  notice : request.rendering.header.notice = preferences.notice
  timestamp : request.rendering.header.timestamp = true ↔ options.WritesTime preferences
  time : request.rendering.generatedAt = some time

theorem layered_request (options : Options) (preferences : Preferences) (time : Text) :
    Layered options preferences time
      (options.request (Settings.ofPreferences preferences) time) where
  catalog := Option.getD_or.symm
  assignments := Option.getD_or.symm
  output := Option.getD_or.symm
  dryRun := rfl
  generator := rfl
  notice := rfl
  timestamp := by
    have htimestamp :
        (options.request (Settings.ofPreferences preferences) time).rendering.header.timestamp =
          (preferences.timestamp.getD true && !options.noTimestamp) := rfl
    rw [htimestamp, Options.WritesTime, Bool.and_eq_true, Bool.not_eq_true']
    refine and_congr_left fun _ => ?_
    cases preferences.timestamp with
    | none => decide
    | some wanted => cases wanted <;> decide
  time := rfl

section Executions

variable {σ : Type} [FileAccess (StateM σ)]

/-- A command line in a file system: what the command leaves behind, and the file
    system behind it. -/
def executeIn (complaints : Complaints) (files : σ) (surroundings : Surroundings)
    (arguments : List Text) : Execution × σ :=
  (execute complaints surroundings arguments : StateM σ Execution) files

/-- What options ask for in a file system. -/
def performIn (complaint : Text → String) (files : σ) (options : Options) (time : Text) :
    Execution × σ :=
  (perform complaint options time : StateM σ Execution) files

/-- What the settings file gives that the options name. If they name none, nothing
    is given. Of a text that the reader of TOML refuses there is what it says. -/
def Options.preferencesIn (options : Options) (complaint : Text → String) (files : σ) :
    Except (Path × Settings.Failure) Preferences :=
  match options.config with
  | none => .ok {}
  | some path =>
    match (readIn files path).1 with
    | .error error => .error (path, .unreadable error)
    | .ok source =>
      match Preferences.parse? source with
      | none => .error (path, .malformed (complaint source))
      | some preferences => .ok preferences

/-- What is said about settings that cannot be loaded. -/
def unloadable (path : Path) (failure : Settings.Failure) : String :=
  s!"Error loading settings '{path.string}': {failure.message}\n"

variable {complaint : Text → String} {files : σ} {options : Options} {arguments : List Text}

/-- The log filter has to do with the log only. -/
theorem executeIn_of_parse (complaints : Complaints) (files : σ)
    (hparse : Options.parse arguments = .ok options) (surroundings : Surroundings) :
    ∃ log, executeIn complaints files surroundings arguments =
      ({ (performIn complaints.settings files options surroundings.time).1 with log := log },
        (performIn complaints.settings files options surroundings.time).2) := by
  rw [executeIn, execute, hparse]
  exact ⟨_, rfl⟩

variable [FileView σ] [LawfulFiles σ]

theorem settings_eq (options : Options) (complaint : Text → String) (files : σ) :
    (options.settings complaint : StateM σ (Except (Path × Settings.Failure) Settings)) files =
      ((options.preferencesIn complaint files).map Settings.ofPreferences, files) := by
  rw [Options.settings, Options.preferencesIn]
  cases options.config with
  | none => rfl
  | some path =>
    dsimp only
    rw [bind_apply, Settings.load, bind_apply, read_eq]
    cases (readIn files path).1 with
    | error error => rfl
    | ok source =>
      dsimp only [Settings.parse]
      cases Preferences.parse? source with
      | none => rfl
      | some preferences => rfl

theorem performIn_of_error {path : Path} {failure : Settings.Failure}
    (hsettings : options.preferencesIn complaint files = .error (path, failure)) (time : Text) :
    performIn complaint files options time = (⟨1, "", unloadable path failure, []⟩, files) := by
  rw [performIn, perform, bind_apply, settings_eq, hsettings]
  rfl

theorem performIn_of_ok {preferences : Preferences}
    (hsettings : options.preferencesIn complaint files = .ok preferences) (time : Text) :
    performIn complaint files options time =
      let request := options.request (Settings.ofPreferences preferences) time
      (Execution.ofRun request (request.runIn files).1, request.filesAfter files) := by
  rw [performIn, perform, bind_apply, settings_eq, hsettings]
  rfl

end Executions

end CheckPlan.CommandLine
