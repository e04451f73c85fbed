import CheckPlan.Assignment.Resolve
import CheckPlan.Catalog.Source
import CheckPlan.Output.Body

namespace CheckPlan

/-- A catalog, and a plan that uses only its checks. -/
structure Compilation where
  catalog : Catalog
  plan : Plan

namespace Compilation

/-- The problems that stop a compilation. Assignments are looked at only when
    the catalog has none. -/
inductive Failure
  | catalog (problems : List Problem)
  | assignments (problems : List Problem)
  deriving DecidableEq, Repr

namespace Failure

/-- The problems, in the order of the source that they are in. -/
def problems : Failure → List Problem
  | .catalog problems => problems
  | .assignments problems => problems

/-- What is wrong, on one line. -/
def message : Failure → String
  | .catalog problems => s!"catalog errors: {Problem.summary problems}"
  | .assignments problems => s!"assignment errors: {Problem.summary problems}"

end Failure

/-- Reads both sources. -/
def ofSources (catalogSource assignmentSource : Text) : Except Failure Compilation :=
  match Catalog.parse catalogSource with
  | .error problems => .error (.catalog problems)
  | .ok catalog =>
    match catalog.resolve assignmentSource with
    | .error problems => .error (.assignments problems)
    | .ok plan => .ok ⟨catalog, plan⟩

theorem ofSources_eq_ok_iff {catalogSource assignmentSource : Text} {compilation : Compilation} :
    ofSources catalogSource assignmentSource = .ok compilation ↔
      Catalog.parse catalogSource = .ok compilation.catalog ∧
        compilation.catalog.resolve assignmentSource = .ok compilation.plan := by
  obtain ⟨catalog, plan⟩ := compilation
  rw [ofSources]
  cases hparse : Catalog.parse catalogSource with
  | error problems => simp
  | ok parsed =>
    cases hresolve : parsed.resolve assignmentSource with
    | error problems =>
      simp only [hresolve, reduceCtorEq, Except.ok.injEq, false_iff]
      rintro ⟨rfl, haccept⟩
      rw [hresolve] at haccept
      cases haccept
    | ok made =>
      simp only [hresolve, Except.ok.injEq, mk.injEq]
      constructor
      · rintro ⟨rfl, rfl⟩
        exact ⟨rfl, hresolve⟩
      · rintro ⟨rfl, haccept⟩
        rw [hresolve] at haccept
        exact ⟨rfl, Except.ok.inj haccept⟩

/-- The output of the compilation. -/
def render (compilation : Compilation) (options : OutputOptions) : Text :=
  Output.render compilation.catalog compilation.plan options

end Compilation

/-- The output of two sources. -/
def compile (catalogSource assignmentSource : Text) (options : OutputOptions) :
    Except Compilation.Failure Text :=
  (Compilation.ofSources catalogSource assignmentSource).map fun compilation =>
    compilation.render options

theorem compile_eq_ok {catalogSource assignmentSource : Text} {compilation : Compilation}
    (haccept : Compilation.ofSources catalogSource assignmentSource = .ok compilation)
    (options : OutputOptions) :
    compile catalogSource assignmentSource options = .ok (compilation.render options) := by
  rw [compile, haccept]
  rfl

end CheckPlan
