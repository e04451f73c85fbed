import CheckPlan.CommandLine.Options
import CheckPlan.Log.Filter
import CheckPlan.Run
import CheckPlan.Settings

namespace CheckPlan

namespace CommandLine

/-- What the help says. -/
def help : String :=
  "Compile host/check assignments into monitoring configuration\n" ++
  "\n" ++
  "Usage: checkgen [OPTIONS]\n" ++
  "\n" ++
  "Options:\n" ++
  "  -o, --output <OUTPUT>            Output file\n" ++
  "  -a, --assignments <ASSIGNMENTS>  Host assignment file\n" ++
  "  -c, --catalog <CATALOG>          Check template catalog\n" ++
  "      --config <CONFIG>            Settings file (TOML format)\n" ++
  "      --no-timestamp               Omit the timestamp from the header\n" ++
  "  -n, --dry-run                    Validate only, do not write output\n" ++
  "  -v, --verbose...                 Increase log verbosity (-v info, -vv debug, -vvv trace)\n" ++
  "  -h, --help                       Print help\n"

/-- What is said about what is refused: about the text of a settings file by the
    reader of TOML, and about arguments by the reader of the command line. The
    command passes their words on. -/
structure Complaints where
  settings : Text → String
  arguments : List Text → String

/-- What the command knows besides its arguments: the text of the log filter,
    if there is one, and the present time as it is written to the header. -/
structure Surroundings where
  logFilter : Option Text
  time : Text

/-- What the command leaves behind: its exit status, what it prints to both
    outputs, and its log. -/
structure Execution where
  status : Nat
  stdout : String
  stderr : String
  log : List Event

namespace Options

/-- The run that is asked for: what the command line gives, and else what the
    settings say. The time is left to the header options. -/
def request (options : Options) (settings : Settings) (time : Text) : Run.Request :=
  { catalog := options.catalog.getD settings.catalog
    assignments := options.assignments.getD settings.assignments
    output := options.output.getD settings.output
    dryRun := options.dryRun
    rendering :=
      { header :=
          { settings.header with
            timestamp := settings.header.timestamp && !options.noTimestamp }
        generatedAt := some time } }

/-- The settings of the file that the options name, or else the defaults. -/
def settings {m : Type → Type} [Monad m] [FileAccess m] (options : Options)
    (complaint : Text → String) : m (Except (Path × Settings.Failure) Settings) :=
  match options.config with
  | none => return .ok {}
  | some path => do
    match ← Settings.load complaint path with
    | .ok settings => return .ok settings
    | .error error => return .error (path, error)

end Options

/-- What is said about a run that succeeded. -/
def success (output : Path) (summary : Run.Summary) : String :=
  if summary.written then
    s!"Wrote {summary.invocations} checks for {summary.hosts} hosts to '{output.string}'\n"
  else
    s!"OK: {summary.invocations} checks for {summary.hosts} hosts (dry run, nothing written)\n"

/-- What is said about a run that failed: the reports, and the failure. -/
def failure (failure : Run.Failure) : String :=
  String.join failure.reports ++ s!"Error: {failure.message}\n"

/-- What the command leaves behind after a run. -/
def Execution.ofRun (request : Run.Request) (outcome : Run.Outcome) : Execution :=
  match outcome.result with
  | .ok summary => ⟨0, "", success request.output summary, outcome.log⟩
  | .error error => ⟨1, "", failure error, outcome.log⟩

/-- Carries out what the options ask for. -/
def perform {m : Type → Type} [Monad m] [FileAccess m] (complaint : Text → String)
    (options : Options) (time : Text) : m Execution := do
  match ← options.settings complaint with
  | .error (path, error) =>
    return ⟨1, "", s!"Error loading settings '{path.string}': {error.message}\n", []⟩
  | .ok settings =>
    let request := options.request settings time
    return Execution.ofRun request (← request.run)

/-- Carries out a command line. The log holds what the filter lets through. -/
def execute {m : Type → Type} [Monad m] [FileAccess m] (complaints : Complaints)
    (surroundings : Surroundings) (arguments : List Text) : m Execution := do
  match Options.parse arguments with
  | .error .help => return ⟨0, help, "", []⟩
  | .error .misuse => return ⟨2, "", complaints.arguments arguments, []⟩
  | .ok options =>
    let execution ← perform complaints.settings options surroundings.time
    let filter := LogFilter.select surroundings.logFilter options.verbosity
    return { execution with log := execution.log.filter filter.admits }

end CommandLine

end CheckPlan
