import CheckPlan.Text.Piece

namespace CheckPlan

/-- Whose line a reference stands on. -/
inductive Owner
  | group (name : Text)
  | host (name : Text)
  deriving DecidableEq, Repr

namespace Owner

/-- The name of the group or host. -/
def name : Owner → Text
  | .group name => name
  | .host name => name

/-- How messages speak of the owner. -/
def description : Owner → String
  | .group name => s!"group '@{name.string}'"
  | .host name => s!"host '{name.string}'"

end Owner

/-- Why a part of a source cannot be used. -/
inductive Cause
  /-- A reference names a check that the catalog does not have. -/
  | unknownCheck (owner : Owner) (check : Text)
  /-- A host uses a group that no line above defines. -/
  | unknownGroup (host group : Text)
  /-- A segment is no reference. -/
  | invalidReference (reference : Text)
  /-- A line is neither a group's nor a host's. -/
  | malformedLine (reason : Text)
  /-- A template has the name of one above it. -/
  | duplicateTemplate (name : Text)
  /-- A template header has no name. -/
  | unnamedTemplate
  deriving DecidableEq, Repr

namespace Cause

/-- What is wrong, without the place. -/
def message : Cause → String
  | .unknownCheck owner check =>
    s!"{owner.description} references unknown check '${check.string}'"
  | .unknownGroup host group =>
    s!"host '{host.string}' references unknown group '@{group.string}'"
  | .invalidReference reference =>
    s!"invalid reference '{reference.string}', expected '$<check> [args...]'"
  | .malformedLine reason => s!"malformed line: {reason.string}"
  | .duplicateTemplate name => s!"duplicate check template '${name.string}'"
  | .unnamedTemplate => "check template header has no name"

/-- What a report writes under the offending text. -/
def label : Cause → String
  | .unknownCheck _ check => s!"no check template named '{check.string}'"
  | .unknownGroup _ group => s!"no group named '{group.string}' defined above"
  | .invalidReference _ => "check references must start with '$'"
  | .malformedLine reason => reason.string
  | .duplicateTemplate _ => "template already defined"
  | .unnamedTemplate => "expected a name after '$'"

end Cause

/-- A cause, the number of the line that shows it, and the bytes of the source
    that are to blame. -/
structure Problem where
  cause : Cause
  line : Nat
  span : Span
  deriving DecidableEq, Repr

/-- The problems that an outcome reports. -/
def Problem.reported {α : Type} : Except (List Problem) α → List Problem
  | .ok _ => []
  | .error problems => problems

/-- What is wrong and on which line. -/
def Problem.message (problem : Problem) : String :=
  s!"line {problem.line}: {problem.cause.message}"

/-- The messages of several problems on one line. -/
def Problem.summary (problems : List Problem) : String :=
  "; ".intercalate (problems.map message)

end CheckPlan
