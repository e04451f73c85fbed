import CheckPlan.Assignment.Statement
import CheckPlan.Catalog.Basic
import CheckPlan.Plan
import CheckPlan.Problem

namespace CheckPlan

namespace Resolve

/-- The reference that a segment makes, if it is one and the catalog has its
    check. -/
def reference (catalog : Catalog) (owner : Owner) (segment : Text) : Except Cause Reference :=
  match Reference.parse segment with
  | .error invalid => .error (.invalidReference invalid.reference)
  | .ok reference =>
    if catalog.contains reference.check then
      .ok reference
    else
      .error (.unknownCheck owner reference.check)

/-- The references that a segment on a host's line stands for: those of a
    group behind an at sign, or else the one that the segment makes. -/
def expand (catalog : Catalog) (groups : Table Group) (host segment : Text) :
    Except Cause (List Reference) :=
  match segment with
  | '@' :: name =>
    match groups.get? name with
    | some group => .ok group.references
    | none => .error (.unknownGroup host name)
  | _ => (reference catalog (.host host) segment).map fun reference => [reference]

/-- The results of the segments that can be used, and the problems with the
    others, both in order. -/
def collect {α : Type} (line : Line) (read : Text → Except Cause α) :
    List Piece → List α × List Problem
  | [] => ([], [])
  | segment :: rest =>
    let (results, problems) := collect line read rest
    match read segment.text with
    | .ok result => (result :: results, problems)
    | .error cause => (results, ⟨cause, line.number, segment.span⟩ :: problems)

/-- The plan after a clause, and the problems with the clause. -/
def step (catalog : Catalog) (plan : Plan) (clause : Clause) : Plan × List Problem :=
  match clause.statement with
  | .malformed expected =>
    (plan, [⟨.malformedLine expected, clause.line.number, clause.line.span⟩])
  | .group name segments =>
    let (references, problems) :=
      collect clause.line (reference catalog (.group name)) segments
    (plan.define name references, problems)
  | .host name segments =>
    let (references, problems) :=
      collect clause.line (expand catalog plan.groups name) segments
    (plan.assign name (references.flatten.map (Invocation.ofReference name)), problems)

/-- The plan after all clauses, and each clause with its problems. -/
def steps (catalog : Catalog) (plan : Plan) : List Clause → Plan × List (Clause × List Problem)
  | [] => (plan, [])
  | clause :: rest =>
    let (next, problems) := step catalog plan clause
    let (final, outcomes) := steps catalog next rest
    (final, (clause, problems) :: outcomes)

end Resolve

/-- The plan of an assignment source, or every problem with it. -/
def Catalog.resolve (catalog : Catalog) (source : Text) : Except (List Problem) Plan :=
  let (plan, outcomes) := Resolve.steps catalog Plan.empty source.clauses
  match outcomes.flatMap Prod.snd with
  | [] => .ok plan
  | problems => .error problems

end CheckPlan
