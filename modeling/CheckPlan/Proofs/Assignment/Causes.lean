import CheckPlan.Proofs.Assignment.Declaration
import CheckPlan.Proofs.Assignment.Step
import CheckPlan.Proofs.Earlier

namespace CheckPlan

namespace Declaration

/-- What is wrong with a segment that has to be a reference. -/
def referenceCause? (catalog : Catalog) (owner : Owner) (segment : Text) : Option Cause :=
  match Reference.parse segment with
  | .error _ => some (.invalidReference segment)
  | .ok reference =>
    if catalog.contains reference.check then none
    else some (.unknownCheck owner reference.check)

theorem referenceCause?_eq_none_iff {catalog : Catalog} {owner : Owner} {segment : Text} :
    referenceCause? catalog owner segment = none ↔
      ∃ reference, Reference.parse segment = .ok reference ∧
        catalog.contains reference.check = true := by
  unfold referenceCause?
  cases hparse : Reference.parse segment with
  | error invalid => simp
  | ok reference => simp

/-- What is wrong with a segment of a host's line. Behind an at sign it has to
    be a group that an earlier line adds to, whether or not that line was of
    any use. -/
def segmentCause? (catalog : Catalog) (earlier : List Declaration) (host : Text) :
    Text → Option Cause
  | '@' :: name =>
    if name ∈ groupNames earlier then none else some (.unknownGroup host name)
  | segment => referenceCause? catalog (.host host) segment

/-- What is wrong with a line: that it is malformed, and then nothing else, or
    what is wrong with its segments one by one. -/
def causes (catalog : Catalog) (earlier : List Declaration) : Declaration → List Cause
  | .malformed expected => [.malformedLine expected]
  | .group name segments => segments.filterMap (referenceCause? catalog (.group name))
  | .host name segments => segments.filterMap (segmentCause? catalog earlier name)

theorem cause?_reference (catalog : Catalog) (owner : Owner) (segment : Text) :
    Resolve.cause? (Resolve.reference catalog owner segment) =
      referenceCause? catalog owner segment := by
  unfold Resolve.reference referenceCause?
  cases hparse : Reference.parse segment with
  | error invalid =>
    rw [← Reference.eq_of_parse_eq_error hparse]
    rfl
  | ok reference => by_cases hcontains : catalog.contains reference.check = true <;>
      simp [hcontains, Resolve.cause?]

private theorem cause?_expand (catalog : Catalog) {groups : Table Group}
    {earlier : List Declaration}
    (hnames : groups.names = groupNames earlier) (host segment : Text) :
    Resolve.cause? (Resolve.expand catalog groups host segment) =
      segmentCause? catalog earlier host segment := by
  unfold Resolve.expand
  split
  · next name =>
    rw [segmentCause?, ← hnames]
    cases hget : groups.get? name with
    | none =>
      rw [if_neg (Table.get?_eq_none_iff.mp hget)]
      rfl
    | some group =>
      rw [if_pos (Table.mem_names_of_get?_eq_some hget)]
      rfl
  · next hnot =>
    rw [Resolve.cause?_map, cause?_reference, segmentCause?.eq_2 _ _ _ _ hnot]

end Declaration

/-- The problems with the segments of a line that a judgement finds fault with. -/
def Line.problems (line : Line) (judge : Text → Option Cause) (segments : List Piece) :
    List Problem :=
  segments.filterMap fun segment =>
    (judge segment.text).map fun cause => ⟨cause, line.number, segment.span⟩

private theorem Line.map_cause_problems (line : Line) (judge : Text → Option Cause)
    (segments : List Piece) :
    (line.problems judge segments).map Problem.cause =
      (segments.map Piece.text).filterMap judge := by
  rw [problems, List.map_filterMap, List.filterMap_map]
  congr 1
  funext segment
  simp [Function.comp_def]

namespace Clause

/-- What is wrong with a clause and where: each cause at its segment, or at the
    whole text of a line that is malformed. -/
def problems (catalog : Catalog) (earlier : List Declaration) (clause : Clause) : List Problem :=
  match clause.statement with
  | .malformed expected => [⟨.malformedLine expected, clause.line.number, clause.line.span⟩]
  | .group name segments =>
    clause.line.problems (Declaration.referenceCause? catalog (.group name)) segments
  | .host name segments =>
    clause.line.problems (Declaration.segmentCause? catalog earlier name) segments

theorem map_cause_problems (catalog : Catalog) (earlier : List Declaration) (clause : Clause) :
    (clause.problems catalog earlier).map Problem.cause =
      clause.declaration.causes catalog earlier := by
  rw [problems, declaration]
  cases clause.statement with
  | malformed expected => rfl
  | group name segments => exact Line.map_cause_problems _ _ _
  | host name segments => exact Line.map_cause_problems _ _ _

end Clause

/-- What is wrong with a source, line by line and segment by segment. -/
def Catalog.causes (catalog : Catalog) (source : Text) : List Cause :=
  (withEarlier [] source.declarations).flatMap fun (earlier, declaration) =>
    declaration.causes catalog earlier

theorem Catalog.causes_eq_nil_iff {catalog : Catalog} {source : Text} :
    catalog.causes source = [] ↔
      ∀ earlier declaration, (earlier, declaration) ∈ withEarlier [] source.declarations →
        declaration.causes catalog earlier = [] := by
  rw [causes, List.flatMap_eq_nil_iff]
  exact Prod.forall

namespace Resolve

variable {catalog : Catalog} {plan : Plan} {earlier : List Declaration}

/-- The groups of a plan stay those that the lines so far add to. -/
theorem names_groups_step (hnames : plan.groups.names = Declaration.groupNames earlier)
    (clause : Clause) :
    (step catalog plan clause).1.groups.names =
      Declaration.groupNames (earlier ++ [clause.declaration]) := by
  rw [Declaration.groupNames_concat, Clause.declaration, step]
  cases clause.statement with
  | malformed expected => exact hnames
  | host name segments => exact hnames
  | group name segments =>
    rw [← hnames]
    exact Table.names_change _ _ _

/-- A step reports what is wrong with its clause. -/
private theorem step_snd (hnames : plan.groups.names = Declaration.groupNames earlier)
    (clause : Clause) : (step catalog plan clause).2 = clause.problems catalog earlier := by
  rw [step, Clause.problems]
  cases clause.statement with
  | malformed expected => rfl
  | group name segments =>
    change (collect _ _ segments).2 = _
    rw [collect_snd]
    simp only [Declaration.cause?_reference]
    rfl
  | host name segments =>
    change (collect _ _ segments).2 = _
    rw [collect_snd]
    simp only [Declaration.cause?_expand catalog hnames]
    rfl

theorem flatMap_snd_steps {above : List Clause}
    (hnames : plan.groups.names = Declaration.groupNames (above.map Clause.declaration))
    (clauses : List Clause) :
    (steps catalog plan clauses).2.flatMap Prod.snd =
      (withEarlier above clauses).flatMap fun (before, clause) =>
        clause.problems catalog (before.map Clause.declaration) := by
  induction clauses generalizing plan above with
  | nil => rfl
  | cons clause rest ih =>
    have hnext := @names_groups_step catalog _ _ hnames clause
    rw [← List.map_singleton, ← List.map_append] at hnext
    rw [steps_cons, List.flatMap_cons, step_snd hnames, ih hnext, withEarlier, List.flatMap_cons]

end Resolve

namespace Catalog

/-- What is reported of a source is what is wrong with its clauses, each judged
    by the clauses above it. -/
theorem reported_resolve_eq_problems (catalog : Catalog) (source : Text) :
    Problem.reported (catalog.resolve source) =
      (withEarlier [] source.clauses).flatMap fun (above, clause) =>
        clause.problems catalog (above.map Clause.declaration) := by
  have hnames : Plan.empty.groups.names =
      Declaration.groupNames (([] : List Clause).map Clause.declaration) := rfl
  rw [reported_resolve, Resolve.flatMap_snd_steps hnames]

/-- The causes of what is reported are those of the lines, each judged by the
    lines above it. -/
theorem map_cause_reported_resolve (catalog : Catalog) (source : Text) :
    (Problem.reported (catalog.resolve source)).map Problem.cause = catalog.causes source := by
  have hearlier := withEarlier_map Clause.declaration [] source.clauses
  rw [List.map_nil, Text.map_declaration_clauses] at hearlier
  rw [reported_resolve_eq_problems, List.map_flatMap, causes, hearlier, List.flatMap_map]
  apply List.flatMap_congr
  rintro ⟨above, clause⟩ -
  exact Clause.map_cause_problems catalog _ clause

theorem exists_resolve_eq_ok_iff (catalog : Catalog) (source : Text) :
    (∃ plan, catalog.resolve source = .ok plan) ↔ catalog.causes source = [] := by
  rw [← map_cause_reported_resolve, List.map_eq_nil_iff, exists_resolve_eq_ok_iff_reported]

theorem causes_eq_nil_of_resolve_eq_ok {catalog : Catalog} {source : Text} {plan : Plan}
    (haccept : catalog.resolve source = .ok plan) : catalog.causes source = [] :=
  (exists_resolve_eq_ok_iff catalog source).mp ⟨plan, haccept⟩

/-- A resolution reports every cause in the source, each once and in the order
    of the source, and it ends with a plan exactly when there is none. -/
theorem resolve_reports_causes (catalog : Catalog) (source : Text) :
    (Problem.reported (catalog.resolve source)).map Problem.cause = catalog.causes source ∧
      ((∃ plan, catalog.resolve source = .ok plan) ↔ catalog.causes source = []) :=
  ⟨map_cause_reported_resolve catalog source, exists_resolve_eq_ok_iff catalog source⟩

end Catalog

end CheckPlan
