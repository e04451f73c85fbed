import CheckPlan.Assignment.Resolve

namespace CheckPlan

namespace Resolve

variable {α : Type}

/-- The cause with which a reading fails. -/
def cause? : Except Cause α → Option Cause
  | .ok _ => none
  | .error cause => some cause

@[simp] theorem cause?_map {β : Type} (f : α → β) (read : Except Cause α) :
    cause? (read.map f) = cause? read := by
  cases read <;> rfl

private theorem cause?_eq_none_iff {read : Except Cause α} :
    cause? read = none ↔ ∃ result, read = .ok result := by
  cases read <;> simp [cause?]

theorem cause?_eq_some_iff {read : Except Cause α} {cause : Cause} :
    cause? read = some cause ↔ read = .error cause := by
  cases read <;> simp [cause?]

theorem collect_fst (line : Line) (read : Text → Except Cause α) (segments : List Piece) :
    (collect line read segments).1 =
      (segments.map Piece.text).filterMap fun segment => (read segment).toOption := by
  induction segments with
  | nil => rfl
  | cons segment rest ih =>
    rw [List.map_cons, List.filterMap_cons, ← ih, collect]
    cases read segment.text <;> rfl

theorem collect_snd (line : Line) (read : Text → Except Cause α) (segments : List Piece) :
    (collect line read segments).2 = segments.filterMap fun segment =>
      (cause? (read segment.text)).map fun cause => ⟨cause, line.number, segment.span⟩ := by
  induction segments with
  | nil => rfl
  | cons segment rest ih =>
    rw [List.filterMap_cons, ← ih, collect]
    cases read segment.text <;> rfl

/-- Without problems every segment is read. -/
theorem exists_ok_of_collect_eq_nil {line : Line} {read : Text → Except Cause α}
    {segments : List Piece} (hnone : (collect line read segments).2 = []) :
    ∀ segment ∈ segments.map Piece.text, ∃ result, read segment = .ok result := by
  intro segment hmem
  obtain ⟨piece, hpiece, rfl⟩ := List.mem_map.mp hmem
  rw [collect_snd, List.filterMap_eq_nil_iff] at hnone
  exact cause?_eq_none_iff.mp (Option.map_eq_none_iff.mp (hnone piece hpiece))

theorem steps_cons (catalog : Catalog) (plan : Plan) (clause : Clause) (rest : List Clause) :
    steps catalog plan (clause :: rest) =
      ((steps catalog (step catalog plan clause).1 rest).1,
        (clause, (step catalog plan clause).2) ::
          (steps catalog (step catalog plan clause).1 rest).2) := rfl

/-- The steps keep the clauses. -/
theorem map_fst_steps (catalog : Catalog) (plan : Plan) (clauses : List Clause) :
    (steps catalog plan clauses).2.map Prod.fst = clauses := by
  induction clauses generalizing plan with
  | nil => rfl
  | cons clause rest ih => rw [steps, List.map_cons, ih]

/-- The problems of a clause are those of a step from some plan. -/
theorem exists_step_of_mem_steps {catalog : Catalog} {plan : Plan} {clauses : List Clause}
    {clause : Clause} {problems : List Problem}
    (hmem : (clause, problems) ∈ (steps catalog plan clauses).2) :
    ∃ before, (step catalog before clause).2 = problems := by
  induction clauses generalizing plan with
  | nil => cases hmem
  | cons first rest ih =>
    rw [steps, List.mem_cons, Prod.mk.injEq] at hmem
    rcases hmem with ⟨rfl, rfl⟩ | hmem
    · exact ⟨plan, rfl⟩
    · exact ih hmem

end Resolve

namespace Catalog

/-- A source reports the problems of its clauses, one clause after the other. -/
theorem reported_resolve (catalog : Catalog) (source : Text) :
    Problem.reported (catalog.resolve source) =
      (Resolve.steps catalog Plan.empty source.clauses).2.flatMap Prod.snd := by
  unfold resolve
  split
  next plan outcomes hsteps =>
    rw [hsteps]
    cases hproblems : outcomes.flatMap Prod.snd with
    | nil => rfl
    | cons first rest => rfl

/-- A source is accepted with a plan exactly when the steps end with that plan
    and no clause has a problem. -/
theorem resolve_eq_ok_iff {catalog : Catalog} {source : Text} {plan : Plan} :
    catalog.resolve source = .ok plan ↔
      (Resolve.steps catalog Plan.empty source.clauses).1 = plan ∧
        (Resolve.steps catalog Plan.empty source.clauses).2.flatMap Prod.snd = [] := by
  unfold resolve
  split
  next final outcomes hsteps =>
    rw [hsteps]
    cases hproblems : outcomes.flatMap Prod.snd with
    | nil => simp only [Except.ok.injEq, and_true]
    | cons first rest => simp only [reduceCtorEq, and_false]

/-- A source is accepted exactly when nothing is reported of it. -/
theorem exists_resolve_eq_ok_iff_reported {catalog : Catalog} {source : Text} :
    (∃ plan, catalog.resolve source = .ok plan) ↔
      Problem.reported (catalog.resolve source) = [] := by
  rw [reported_resolve]
  constructor
  · rintro ⟨plan, hresolve⟩
    exact (resolve_eq_ok_iff.mp hresolve).2
  · intro hnone
    exact ⟨_, resolve_eq_ok_iff.mpr ⟨rfl, hnone⟩⟩

end Catalog

end CheckPlan
