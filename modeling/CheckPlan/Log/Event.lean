import CheckPlan.Assignment.Resolve
import CheckPlan.Catalog.Source
import CheckPlan.Text.Quoted

namespace CheckPlan

/-- How important an event is. -/
inductive Level
  | trace
  | debug
  | info
  | warn
  | error
  deriving DecidableEq, Repr

namespace Level

/-- The place of the level, counted from the most important one. -/
def rank : Level → Nat
  | .error => 1
  | .warn => 2
  | .info => 3
  | .debug => 4
  | .trace => 5

/-- The name of the level, as it is written to the log. -/
def name : Level → String
  | .trace => "TRACE"
  | .debug => "DEBUG"
  | .info => "INFO"
  | .warn => "WARN"
  | .error => "ERROR"

end Level

/-- The part of the program that an event comes from. -/
inductive Component
  | catalog
  | assignments
  | compilation
  | run
  deriving DecidableEq, Repr

/-- The name by which a log filter selects the part. -/
def Component.target : Component → Text
  | .catalog => "checkgen::template::registry".toList
  | .assignments => "checkgen::assignment::resolver".toList
  | .compilation => "checkgen".toList
  | .run => "checkgen::run".toList

/-- Something that happened. The values are written in order. -/
structure Event where
  level : Level
  component : Component
  message : String
  values : List (String × String)
  deriving DecidableEq, Repr

namespace Event

/-- The names under which the event holds something: its values, and its
    message. -/
def fields (event : Event) : List Text :=
  "message".toList :: event.values.map fun value => value.1.toList

/-- The event as a line of the log, without the time. -/
def line (event : Event) : String :=
  " ".intercalate (event.level.name :: event.message ::
    event.values.map fun (name, value) => s!"{name}={value}")

/-- The catalog has a problem. -/
def catalogProblem (problem : Problem) : Event :=
  ⟨.debug, .catalog, "catalog error", [("error", problem.message)]⟩

/-- A block of the catalog was read. A header without a name opens none. -/
def ofBlock (block : Block) : List Event :=
  if block.name = [] then
    []
  else
    [⟨.debug, .catalog, "parsed check template",
      [("name", block.name.string), ("bytes", toString (Text.byteLength block.template.body))]⟩]

/-- The events of reading a catalog. -/
def ofCatalog (source : Text) : List Event :=
  (Catalog.registerAll Catalog.empty (Catalog.blocks source)).2.flatMap fun (block, problem) =>
    ofBlock block ++ problem.toList.map catalogProblem

/-- The assignments have a problem. -/
def assignmentProblem (problem : Problem) : Event :=
  ⟨.debug, .assignments, "assignment error", [("error", problem.message)]⟩

/-- A line that defines a group or assigns checks to a host was read. -/
def ofClause (clause : Clause) : List Event :=
  match clause.statement with
  | .malformed _ => []
  | .group name _ =>
    [⟨.debug, .assignments, "group definition",
      [("group", name.quoted.string), ("line", toString clause.line.number)]⟩]
  | .host name _ =>
    [⟨.debug, .assignments, "host assignment",
      [("host", name.quoted.string), ("line", toString clause.line.number)]⟩]

/-- The assignments were resolved. -/
def resolved (plan : Plan) : Event :=
  ⟨.info, .assignments, "assignments resolved",
    [("groups", toString plan.groups.size), ("hosts", toString plan.hostCount),
      ("invocations", toString plan.invocationCount)]⟩

/-- The events of resolving assignments. -/
def ofAssignments (catalog : Catalog) (source : Text) : List Event :=
  let (plan, outcomes) := Resolve.steps catalog Plan.empty source.clauses
  let found := outcomes.flatMap fun (clause, problems) =>
    ofClause clause ++ problems.map assignmentProblem
  if outcomes.all fun outcome => outcome.2.isEmpty then
    found ++ [resolved plan]
  else
    found

/-- The events of a compilation. -/
def ofCompilation (catalogSource assignmentSource : Text) : List Event :=
  ofCatalog catalogSource ++
    match Catalog.parse catalogSource with
    | .error _ => []
    | .ok catalog =>
      ⟨.info, .compilation, "catalog parsed", [("templates", toString catalog.size)]⟩ ::
        ofAssignments catalog assignmentSource

/-- A file is read. -/
def reading (path : Text) : Event :=
  ⟨.debug, .run, "reading", [("path", path.string)]⟩

/-- The output was not asked for. -/
def notWritten (hosts : Nat) : Event :=
  ⟨.info, .run, "dry run, output not written", [("hosts", toString hosts)]⟩

/-- The output was written. -/
def written (path : Text) (bytes : Nat) : Event :=
  ⟨.info, .run, "output written", [("path", path.string), ("bytes", toString bytes)]⟩

end Event

end CheckPlan
