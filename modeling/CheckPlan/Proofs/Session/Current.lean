import CheckPlan.Proofs.Output.Blocks
import CheckPlan.Session

namespace CheckPlan

namespace Session

/-- What can be asked of a session that may change it. -/
inductive Action
  | load (catalogSource : Text)
  | register (template : Template)
  | append (text : Text)
  | reset
  deriving DecidableEq, Repr

/-- The session after an action. A catalog source with problems, and a template
    whose name is taken, leave the session as it is. -/
def perform (session : Session) : Action → Session
  | .load catalogSource => (session.load catalogSource).toOption.getD session
  | .register template => (session.register template).toOption.getD session
  | .append text => (session.append text).1
  | .reset => session.reset

/-- The session after actions in turn, from the one in which nothing has been
    read. -/
def after (actions : List Action) : Session :=
  actions.foldl perform start

/-- The plan of the session is that of its source against its catalog. -/
def Current (session : Session) : Prop :=
  ∀ plan, session.plan = some plan → session.catalog.resolve session.source = .ok plan

/-- A session that differs from another one at most in templates that were
    added. -/
structure Grows (later session : Session) : Prop where
  catalog : later.catalog.Extends session.catalog
  source : later.source = session.source
  plan : later.plan = session.plan

/-- The actions that a plan outlives: templates are added, and catalog sources
    that have problems. -/
def Action.Quiet : Action → Prop
  | .register _ => True
  | .load catalogSource => ∃ problems, Catalog.parse catalogSource = .error problems
  | .append _ => False
  | .reset => False

variable {session later : Session}

namespace Grows

theorem refl (session : Session) : session.Grows session :=
  ⟨.refl _, rfl, rfl⟩

private theorem trans {latest : Session} (hlatest : latest.Grows later)
    (hlater : later.Grows session) :
    latest.Grows session :=
  ⟨hlatest.catalog.trans hlater.catalog, hlatest.source.trans hlater.source,
    hlatest.plan.trans hlater.plan⟩

private theorem current (hgrows : later.Grows session) (hcurrent : session.Current) :
    later.Current := by
  intro plan hplan
  rw [hgrows.plan] at hplan
  rw [hgrows.source]
  exact Catalog.resolve_eq_ok_of_covers hgrows.catalog.covers (hcurrent plan hplan)

private theorem render_eq (hgrows : later.Grows session) (hcurrent : session.Current)
    (options : OutputOptions) : later.render options = session.render options := by
  rw [render, render, hgrows.plan]
  cases hplan : session.plan with
  | none => rfl
  | some plan =>
    have hsupplies := Catalog.supplies_of_resolve_eq_ok (hcurrent plan hplan)
    rw [Option.map_some, Option.map_some, Output.render, Output.render,
      Output.body_of_extends hgrows.catalog hsupplies]

end Grows

theorem grows_perform_register (session : Session) (template : Template) :
    (session.perform (.register template)).Grows session := by
  rw [perform, register]
  cases hregister : session.catalog.register template with
  | error rejected => exact .refl session
  | ok grown => exact ⟨Catalog.extends_of_register_eq_ok hregister, rfl, rfl⟩

theorem perform_load_of_parse_eq_error {catalogSource : Text} {problems : List Problem}
    (hparse : Catalog.parse catalogSource = .error problems) (session : Session) :
    session.perform (.load catalogSource) = session := by
  rw [perform, load, hparse]
  rfl

private theorem grows_perform {action : Action} (hquiet : action.Quiet) (session : Session) :
    (session.perform action).Grows session := by
  cases action with
  | load catalogSource =>
    obtain ⟨problems, hparse⟩ := hquiet
    rw [perform_load_of_parse_eq_error hparse]
    exact .refl session
  | register template => exact grows_perform_register session template
  | append text => exact hquiet.elim
  | reset => exact hquiet.elim

private theorem grows_foldl_perform {actions : List Action}
    (hquiet : ∀ action ∈ actions, action.Quiet)
    (session : Session) : (actions.foldl perform session).Grows session := by
  induction actions generalizing session with
  | nil => exact .refl session
  | cons action rest ih =>
    obtain ⟨haction, hrest⟩ := List.forall_mem_cons.mp hquiet
    exact (ih hrest (session.perform action)).trans (grows_perform haction session)

namespace Current

/-- No action leaves a plan behind that is not the present one. -/
private theorem perform (hcurrent : session.Current) (action : Action) :
    (session.perform action).Current := by
  cases action with
  | load catalogSource =>
    cases hparse : Catalog.parse catalogSource with
    | error problems =>
      rw [perform_load_of_parse_eq_error hparse]
      exact hcurrent
    | ok catalog =>
      rw [Session.perform, load, hparse]
      intro plan hplan
      cases hplan
  | register template =>
    -- The plan was made against the smaller catalog, and the larger one gives the same.
    exact (grows_perform_register session template).current hcurrent
  | append text =>
    rw [Session.perform, append]
    cases hresolve : session.catalog.resolve (session.source ++ text) with
    | ok found =>
      intro plan hplan
      cases hplan
      exact hresolve
    | error problems =>
      intro plan hplan
      cases hplan
  | reset =>
    intro plan hplan
    cases hplan

private theorem foldl_perform (hcurrent : session.Current) (actions : List Action) :
    (actions.foldl Session.perform session).Current := by
  induction actions generalizing session with
  | nil => exact hcurrent
  | cons action rest ih => exact ih (hcurrent.perform action)

end Current

/-- Whatever was asked of a session, its plan is the present one. -/
theorem current_after (actions : List Action) : (after actions).Current := by
  have hstart : start.Current := fun plan hplan => by cases hplan
  exact hstart.foldl_perform actions

/-- A plan of a session is never out of date. It is what resolving the present
    source against the present catalog gives, every check of it has a template,
    each invocation prints one block, and the output stays the same while
    templates are added or catalog sources turned away. -/
theorem plan_never_stale (actions : List Action) {plan : Plan}
    (hplan : (after actions).plan = some plan) :
    (after actions).catalog.resolve (after actions).source = .ok plan ∧
    (after actions).catalog.Supplies plan ∧
    (∃ blocks,
      List.Forall₂ (Output.Prints (after actions).catalog) (plan.sortedHosts.flatMap Prod.snd)
        blocks ∧
      blocks.length = plan.invocationCount ∧
      ∀ options, (after actions).render options =
        some (Header.render options.header options.generatedAt ++ blocks.flatten)) ∧
    ∀ later, (∀ action ∈ later, action.Quiet) → ∀ options,
      (after (actions ++ later)).render options = (after actions).render options := by
  have hcurrent := current_after actions
  have haccept := hcurrent plan hplan
  have hsupplies := Catalog.supplies_of_resolve_eq_ok haccept
  obtain ⟨blocks, hprints, hcount, hbody⟩ := Output.exists_blocks hsupplies
  refine ⟨haccept, hsupplies, ⟨blocks, hprints, hcount, ?_⟩, ?_⟩
  · intro options
    rw [render, hplan, Option.map_some, Output.render, hbody]
  · intro later hquiet options
    rw [after, List.foldl_append]
    exact (grows_foldl_perform hquiet (after actions)).render_eq hcurrent options

/-- A template that comes late, another one of a name that is taken and a
    catalog source with a name twice leave a plan and its output alone. -/
theorem plan_never_stale_quiet :
    ∃ plan, (after [.load "$a\nrun $1\n".toList, .append "h $a 1, $a\n".toList]).plan = some plan ∧
      plan.invocationCount = 2 ∧
      (∃ blocks : List Text, blocks.length = 2 ∧
        (after [.load "$a\nrun $1\n".toList, .append "h $a 1, $a\n".toList]).render {} =
          some (Header.render {} none ++ blocks.flatten)) ∧
      (∀ action ∈ [Action.register ⟨['b'], [], 0⟩, .register ⟨['a'], ['x'], 0⟩,
        .load "$a\n$a\n".toList], action.Quiet) ∧
      ∀ options,
        (after ([.load "$a\nrun $1\n".toList, .append "h $a 1, $a\n".toList] ++
          [.register ⟨['b'], [], 0⟩, .register ⟨['a'], ['x'], 0⟩,
            .load "$a\n$a\n".toList])).render options =
          (after [.load "$a\nrun $1\n".toList, .append "h $a 1, $a\n".toList]).render options := by
  obtain ⟨plan, hplan⟩ : ∃ plan, (after [.load "$a\nrun $1\n".toList,
    .append "h $a 1, $a\n".toList]).plan = some plan := ⟨_, rfl⟩
  have hcount : plan.invocationCount = 2 := by
    cases hplan
    decide
  have hquiet : ∀ action ∈ [Action.register ⟨['b'], [], 0⟩, .register ⟨['a'], ['x'], 0⟩,
      .load "$a\n$a\n".toList], action.Quiet := by
    have hparse : ∃ problems, Catalog.parse "$a\n$a\n".toList = .error problems := ⟨_, rfl⟩
    simpa [Action.Quiet] using hparse
  obtain ⟨-, -, ⟨blocks, -, hblocks, hrender⟩, hlater⟩ := plan_never_stale _ hplan
  exact ⟨plan, hplan, hcount, ⟨blocks, hblocks.trans hcount, hrender {}⟩, hquiet, hlater _ hquiet⟩

end Session

end CheckPlan
