import CheckPlan.Compilation
import CheckPlan.Files.Access
import CheckPlan.Log.Event
import CheckPlan.Report.Render

namespace CheckPlan

namespace Run

/-- The files of a run, whether it only checks them, and what the header of the
    output says. -/
structure Request where
  catalog : Path
  assignments : Path
  output : Path
  dryRun : Bool
  rendering : OutputOptions
  deriving DecidableEq, Repr

/-- What came out of a run: the counts of hosts and invocations, the size of
    the output in bytes, and whether it was written. -/
structure Summary where
  hosts : Nat
  invocations : Nat
  bytes : Nat
  written : Bool
  deriving DecidableEq, Repr

/-- Why a run failed, and on which file. -/
inductive Failure
  | read (path : Path) (error : FileError)
  | invalid (path : Path) (source : Text) (problems : List Problem)
  | write (path : Path) (error : FileError)
  deriving DecidableEq, Repr

namespace Failure

/-- What is said about the failure. -/
def message : Failure → String
  | .read path error => s!"cannot read '{path.string}': {error.message}"
  | .invalid path _ problems =>
    s!"'{path.string}' failed validation with {problems.length} error(s)"
  | .write path error => s!"cannot write '{path.string}': {error.message}"

/-- The reports on the problems of the file. -/
def reports : Failure → List String
  | .invalid path source problems => problems.map (Problem.report source path.string)
  | _ => []

end Failure

/-- The result of a run, and its log. -/
structure Outcome where
  result : Except Failure Summary
  log : List Event

namespace Request

/-- The output for two sources, and the summary of a run that does not write
    it. -/
def compile (request : Request) (catalogSource assignmentSource : Text) :
    Except Failure (Text × Summary) :=
  match Compilation.ofSources catalogSource assignmentSource with
  | .error (.catalog problems) => .error (.invalid request.catalog catalogSource problems)
  | .error (.assignments problems) =>
    .error (.invalid request.assignments assignmentSource problems)
  | .ok compilation =>
    let output := compilation.render request.rendering
    .ok (output, ⟨compilation.plan.hostCount, compilation.plan.invocationCount,
      Text.byteLength output, false⟩)

/-- Reads the sources, compiles them and writes the output. -/
def run {m : Type → Type} [Monad m] [FileAccess m] (request : Request) : m Outcome := do
  match ← FileAccess.read request.catalog with
  | .error error => return ⟨.error (.read request.catalog error), [.reading request.catalog]⟩
  | .ok catalogSource =>
    let readings : List Event := [.reading request.catalog, .reading request.assignments]
    match ← FileAccess.read request.assignments with
    | .error error => return ⟨.error (.read request.assignments error), readings⟩
    | .ok assignmentSource =>
      let log := readings ++ Event.ofCompilation catalogSource assignmentSource
      match request.compile catalogSource assignmentSource with
      | .error failure => return ⟨.error failure, log⟩
      | .ok (output, summary) =>
        if request.dryRun then
          return ⟨.ok summary, log ++ [.notWritten summary.hosts]⟩
        else
          match ← FileAccess.write request.output output with
          | .error error => return ⟨.error (.write request.output error), log⟩
          | .ok () =>
            return ⟨.ok { summary with written := true },
              log ++ [.written request.output summary.bytes]⟩

end Request

end Run

end CheckPlan
