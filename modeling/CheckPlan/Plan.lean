import CheckPlan.Reference.Basic
import CheckPlan.Table

namespace CheckPlan

/-- One check for one host. The arguments start with the host. -/
structure Invocation where
  check : Text
  args : List Text
  deriving DecidableEq, Repr

/-- The invocation that a reference makes for a host. -/
def Invocation.ofReference (host : Text) (reference : Reference) : Invocation :=
  ⟨reference.check, host :: reference.args⟩

/-- The checks of a group, each with the arguments that it was last given, in
    the order in which they were first given any. -/
abbrev Group := Table (List Text)

namespace Group

/-- The group with a reference taken in. -/
def add (group : Group) (reference : Reference) : Group :=
  group.insert reference.check reference.args

/-- The references that the group stands for. -/
def references (group : Group) : List Reference :=
  group.entries.map fun (check, args) => ⟨check, args⟩

end Group

/-- The groups that were defined, and the invocations of each host in the
    order in which they were asked for. -/
structure Plan where
  groups : Table Group
  hosts : Table (List Invocation)

namespace Plan

/-- The plan without groups and hosts. -/
def empty : Plan :=
  ⟨Table.empty, Table.empty⟩

instance : Inhabited Plan :=
  ⟨empty⟩

/-- The group of a name. -/
def group? (plan : Plan) (name : Text) : Option Group :=
  plan.groups.get? name

/-- The invocations of a host. -/
def host? (plan : Plan) (name : Text) : Option (List Invocation) :=
  plan.hosts.get? name

/-- The hosts with their invocations, sorted by name. -/
def sortedHosts (plan : Plan) : List (Text × List Invocation) :=
  plan.hosts.sorted

/-- The number of hosts. -/
def hostCount (plan : Plan) : Nat :=
  plan.hosts.size

/-- The number of invocations of all hosts together. -/
def invocationCount (plan : Plan) : Nat :=
  plan.hosts.values.flatten.length

/-- The plan with references taken into a group. The group exists from then
    on, also when there are no references. -/
def define (plan : Plan) (name : Text) (references : List Reference) : Plan :=
  { plan with
    groups := plan.groups.change name fun group =>
      references.foldl Group.add (group.getD Table.empty) }

/-- The plan with invocations put behind those that a host has. -/
def assign (plan : Plan) (host : Text) (invocations : List Invocation) : Plan :=
  { plan with
    hosts := plan.hosts.change host fun present => present.getD [] ++ invocations }

end Plan

end CheckPlan
