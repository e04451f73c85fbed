import CheckPlan.Catalog.Basic
import CheckPlan.Output.Header
import CheckPlan.Plan

namespace CheckPlan

/-- The header options, and the time to write in the header. -/
structure OutputOptions where
  header : HeaderOptions := {}
  generatedAt : Option Text := none
  deriving DecidableEq, Repr

namespace Output

/-- The filled in template of an invocation, with a line feed behind it. A
    check that the catalog does not have writes nothing. -/
def block (catalog : Catalog) (invocation : Invocation) : Text :=
  match catalog.get? invocation.check with
  | some template => Template.fill template.body invocation.args ++ ['\n']
  | none => []

/-- The blocks of all invocations, host by host. -/
def body (catalog : Catalog) (plan : Plan) : Text :=
  plan.sortedHosts.flatMap fun (_, invocations) => invocations.flatMap (block catalog)

/-- The whole output. -/
def render (catalog : Catalog) (plan : Plan) (options : OutputOptions) : Text :=
  Header.render options.header options.generatedAt ++ body catalog plan

end Output

end CheckPlan
