import CheckPlan.Compilation

namespace CheckPlan

/-- The present catalog and assignment source, and the plan that the source
    was last resolved to. -/
structure Session where
  catalog : Catalog
  source : Text
  plan : Option Plan

namespace Session

/-- The session in which nothing has been read. -/
def start : Session :=
  ⟨Catalog.empty, [], none⟩

instance : Inhabited Session :=
  ⟨start⟩

/-- The session with the catalog of a source and without a plan, unless the
    source has problems. -/
def load (session : Session) (catalogSource : Text) : Except (List Problem) Session :=
  (Catalog.parse catalogSource).map fun catalog =>
    { session with catalog := catalog, plan := none }

/-- The session with a template added to the catalog, or the template back
    when its name is taken. The plan stays. -/
def register (session : Session) (template : Template) : Except Template Session :=
  (session.catalog.register template).map fun catalog => { session with catalog := catalog }

/-- The session with text put at the end of the assignment source, and the
    problems with the whole source. The session has a plan afterwards exactly
    when there are none. -/
def append (session : Session) (text : Text) : Session × List Problem :=
  let source := session.source ++ text
  match session.catalog.resolve source with
  | .ok plan => (⟨session.catalog, source, some plan⟩, [])
  | .error problems => (⟨session.catalog, source, none⟩, problems)

/-- The session with an empty assignment source and without a plan. -/
def reset (session : Session) : Session :=
  ⟨session.catalog, [], none⟩

/-- The output of the plan, if there is one. -/
def render (session : Session) (options : OutputOptions) : Option Text :=
  session.plan.map fun plan => Output.render session.catalog plan options

end Session

end CheckPlan
