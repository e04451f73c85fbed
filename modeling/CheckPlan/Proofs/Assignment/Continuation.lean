import CheckPlan.Proofs.Assignment.Meaning

namespace CheckPlan

/-- The plan has the hosts and groups of an earlier one, with more behind what
    they had: invocations behind those of a host, and checks behind those of a
    group. -/
structure Plan.Extends (later earlier : Plan) : Prop where
  hosts : ∀ host invocations, earlier.host? host = some invocations →
    ∃ all, later.host? host = some all ∧ invocations <+: all
  groups : ∀ name group, earlier.group? name = some group →
    ∃ grown, later.group? name = some grown ∧ group.names <+: grown.names

section Append

variable {front : Text}

private theorem Text.declarations_append (hend : front.EndsLine) (back : Text) :
    (front ++ back).declarations = front.declarations ++ back.declarations := by
  rw [declarations, rawLines_append hend, List.filterMap_append, declarations, declarations]

/-- The clauses of a text stay, places included, when lines follow. -/
private theorem Text.clauses_prefix_append (hend : front.EndsLine) (back : Text) :
    front.clauses <+: (front ++ back).clauses := by
  rw [clauses, clauses, lines_append hend, List.filterMap_append]
  exact List.prefix_append _ _

private theorem Catalog.reported_resolve_prefix_append (catalog : Catalog) (hend : front.EndsLine)
    (back : Text) :
    Problem.reported (catalog.resolve front) <+:
      Problem.reported (catalog.resolve (front ++ back)) := by
  obtain ⟨later, hlater⟩ := Text.clauses_prefix_append hend back
  rw [reported_resolve_eq_problems, reported_resolve_eq_problems, ← hlater, withEarlier_append,
    List.flatMap_append]
  exact List.prefix_append _ _

end Append

namespace Declaration

variable (declarations later : List Declaration)

private theorem hostNames_prefix_append :
    hostNames declarations <+: hostNames (declarations ++ later) := by
  rw [hostNames, hostNames, List.filterMap_append]
  exact eraseDups_prefix_append _ _

private theorem groupNames_prefix_append :
    groupNames declarations <+: groupNames (declarations ++ later) := by
  rw [groupNames, groupNames, List.filterMap_append]
  exact eraseDups_prefix_append _ _

/-- A line gives a host what it gives without regard to the lines below. -/
private theorem invocations_prefix_append (host : Text) :
    invocations host declarations <+: invocations host (declarations ++ later) := by
  rw [invocations, invocations, withEarlier_append, List.flatMap_append]
  exact List.prefix_append _ _

/-- Later declarations of a check do not move it. -/
private theorem checks_prefix_append (name : Text) :
    (Reference.settle (declared name declarations)).map Reference.check <+:
      (Reference.settle (declared name (declarations ++ later))).map Reference.check := by
  rw [Reference.map_check_settle, Reference.map_check_settle, declared, declared,
    List.flatMap_append, List.map_append]
  exact eraseDups_prefix_append _ _

end Declaration

open Declaration

/-- What more lines say extends the plan. -/
private theorem Plan.Means.extends {plan grown : Plan} {declarations later : List Declaration}
    (hmeans : plan.Means declarations) (hgrown : grown.Means (declarations ++ later)) :
    grown.Extends plan := by
  constructor
  · intro host invocations hhost
    obtain ⟨hmem, rfl⟩ := hmeans.host?_eq_some_iff.mp hhost
    refine ⟨_, ?_, invocations_prefix_append declarations later host⟩
    rw [hgrown.host?_eq, if_pos ((hostNames_prefix_append declarations later).subset hmem)]
  · intro name group hgroup
    obtain ⟨hmem, hreferences⟩ := hmeans.references_of_group? hgroup
    have hlater := hgrown.map_group?_eq name
    rw [if_pos ((groupNames_prefix_append declarations later).subset hmem)] at hlater
    obtain ⟨found, hfound, hsettled⟩ := Option.map_eq_some_iff.mp hlater
    refine ⟨found, hfound, ?_⟩
    rw [← Group.map_check_references, ← Group.map_check_references, hsettled, hreferences]
    exact checks_prefix_append declarations later name

namespace Catalog

/-- Lines that follow never rewrite what is above them. The problems of the
    lines above come first, each at its place, and when all lines are accepted
    then so are those above, with a plan that the lines below only extend. -/
theorem resolve_append (catalog : Catalog) {front : Text}
    (hend : front = [] ∨ front.getLast? = some '\n') (back : Text) :
    Problem.reported (catalog.resolve front) <+:
      Problem.reported (catalog.resolve (front ++ back)) ∧
    ∀ later, catalog.resolve (front ++ back) = .ok later →
      ∃ earlier, catalog.resolve front = .ok earlier ∧ later.Extends earlier := by
  have hline := Text.endsLine_iff.mpr hend
  have hproblems := reported_resolve_prefix_append catalog hline back
  refine ⟨hproblems, ?_⟩
  intro later haccept
  rw [haccept] at hproblems
  obtain ⟨earlier, hearlier⟩ := exists_resolve_eq_ok_iff_reported.mpr (List.prefix_nil.mp hproblems)
  have hlater := means_of_resolve_eq_ok haccept
  rw [Text.declarations_append hline back] at hlater
  exact ⟨earlier, hearlier, (means_of_resolve_eq_ok hearlier).extends hlater⟩

/-- A group that is declared again below a use keeps its check in front, and
    the host keeps what it was given. -/
theorem resolve_append_redeclared :
    ("@g $a 1\nh @g\n".toList = [] ∨ "@g $a 1\nh @g\n".toList.getLast? = some '\n') ∧
    ∃ earlier later : Plan,
      resolve ⟨[⟨['a'], [], 1⟩, ⟨['b'], [], 2⟩], by decide⟩ "@g $a 1\nh @g\n".toList = .ok earlier ∧
      resolve ⟨[⟨['a'], [], 1⟩, ⟨['b'], [], 2⟩], by decide⟩
        ("@g $a 1\nh @g\n".toList ++ "@g $b, $a 2\nh @g".toList) = .ok later ∧
      later.Extends earlier ∧
      earlier.host? ['h'] = some [⟨['a'], [['h'], ['1']]⟩] ∧
      later.host? ['h'] = some
        [⟨['a'], [['h'], ['1']]⟩, ⟨['a'], [['h'], ['2']]⟩, ⟨['b'], [['h']]⟩] := by
  have hend : "@g $a 1\nh @g\n".toList = [] ∨ "@g $a 1\nh @g\n".toList.getLast? = some '\n' :=
    .inr (by decide)
  obtain ⟨later, haccept⟩ : ∃ later, resolve ⟨[⟨['a'], [], 1⟩, ⟨['b'], [], 2⟩], by decide⟩
    ("@g $a 1\nh @g\n".toList ++ "@g $b, $a 2\nh @g".toList) = .ok later := ⟨_, rfl⟩
  obtain ⟨-, hcontinued⟩ := resolve_append ⟨[⟨['a'], [], 1⟩, ⟨['b'], [], 2⟩], by decide⟩ hend
    "@g $b, $a 2\nh @g".toList
  obtain ⟨earlier, hearlier, hextends⟩ := hcontinued later haccept
  refine ⟨hend, earlier, later, hearlier, haccept, hextends, ?_, ?_⟩
  · cases hearlier
    decide
  · cases haccept
    decide

end Catalog

end CheckPlan
