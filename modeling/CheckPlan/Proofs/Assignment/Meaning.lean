import CheckPlan.Proofs.Assignment.Causes
import CheckPlan.Proofs.Plan.Settled

namespace CheckPlan

/-- The reference that a text is, if it is one. -/
def Reference.parse? (text : Text) : Option Reference :=
  (Reference.parse text).toOption

namespace Declaration

/-- The references that a line declares for a group. -/
def declaredOn (name : Text) : Declaration → List Reference
  | .group other segments => if other = name then segments.filterMap Reference.parse? else []
  | _ => []

/-- The references that lines declare for a group, in order. -/
def declared (name : Text) (declarations : List Declaration) : List Reference :=
  declarations.flatMap (declaredOn name)

/-- What a segment of a host's line stands for: the references declared so far
    for the group behind its at sign, or else the reference that it is. -/
def references (earlier : List Declaration) : Text → List Reference
  | '@' :: name => Reference.settle (declared name earlier)
  | segment => (Reference.parse? segment).toList

/-- The invocations that a line gives to a host. -/
def invocationsOn (host : Text) (earlier : List Declaration) : Declaration → List Invocation
  | .host name segments =>
    if name = host then
      (segments.flatMap (references earlier)).map (Invocation.ofReference host)
    else []
  | _ => []

/-- The invocations that lines give to a host, in order. -/
def invocations (host : Text) (declarations : List Declaration) : List Invocation :=
  (withEarlier [] declarations).flatMap fun (earlier, declaration) =>
    invocationsOn host earlier declaration

theorem declared_concat (name : Text) (declarations : List Declaration)
    (declaration : Declaration) :
    declared name (declarations ++ [declaration]) =
      declared name declarations ++ declaredOn name declaration := by
  rw [declared, List.flatMap_append, List.flatMap_singleton, declared]

theorem invocations_concat (host : Text) (declarations : List Declaration)
    (declaration : Declaration) :
    invocations host (declarations ++ [declaration]) =
      invocations host declarations ++ invocationsOn host declarations declaration := by
  rw [invocations, withEarlier_append, List.flatMap_append, List.nil_append,
    withEarlier_singleton, List.flatMap_singleton, invocations]

/-- What is declared for a group stands on its lines. -/
theorem mem_declared_iff {name : Text} {declarations : List Declaration} {reference : Reference} :
    reference ∈ declared name declarations ↔
      ∃ segments, .group name segments ∈ declarations ∧
        ∃ segment ∈ segments, Reference.parse? segment = some reference := by
  rw [declared, List.mem_flatMap]
  constructor
  · rintro ⟨declaration, hmem, hreference⟩
    cases declaration with
    | host other segments => cases hreference
    | malformed expected => cases hreference
    | group other segments =>
      rw [declaredOn] at hreference
      split at hreference
      · next hname => exact ⟨segments, hname ▸ hmem, List.mem_filterMap.mp hreference⟩
      · cases hreference
  · rintro ⟨segments, hmem, hreference⟩
    refine ⟨_, hmem, ?_⟩
    rw [declaredOn, if_pos rfl]
    exact List.mem_filterMap.mpr hreference

/-- What a host is given stands on its lines, or is what their segments stand for
    behind the lines above. -/
theorem mem_invocations_iff {host : Text} {declarations : List Declaration}
    {invocation : Invocation} :
    invocation ∈ invocations host declarations ↔
      ∃ earlier segments, (earlier, .host host segments) ∈ withEarlier [] declarations ∧
        ∃ segment ∈ segments, ∃ reference ∈ references earlier segment,
          Invocation.ofReference host reference = invocation := by
  have hgiven (earlier : List Declaration) (segments : List Text) :
      invocation ∈ (segments.flatMap (references earlier)).map (Invocation.ofReference host) ↔
        ∃ segment ∈ segments, ∃ reference ∈ references earlier segment,
          Invocation.ofReference host reference = invocation := by
    rw [List.map_flatMap, List.mem_flatMap]
    simp only [List.mem_map]
  rw [invocations, List.mem_flatMap]
  constructor
  · rintro ⟨⟨earlier, declaration⟩, hmem, hinvocation⟩
    cases declaration with
    | group other segments => cases hinvocation
    | malformed expected => cases hinvocation
    | host other segments =>
      change invocation ∈ invocationsOn host earlier (.host other segments) at hinvocation
      rw [invocationsOn] at hinvocation
      split at hinvocation
      · next hname =>
        exact ⟨earlier, segments, hname ▸ hmem, (hgiven earlier segments).mp hinvocation⟩
      · cases hinvocation
  · rintro ⟨earlier, segments, hmem, hinvocation⟩
    refine ⟨_, hmem, ?_⟩
    change invocation ∈ invocationsOn host earlier (.host host segments)
    rw [invocationsOn, if_pos rfl]
    exact (hgiven earlier segments).mpr hinvocation

theorem parse?_of_reference_eq_ok {catalog : Catalog} {owner : Owner} {segment : Text}
    {reference : Reference} (hok : Resolve.reference catalog owner segment = .ok reference) :
    Reference.parse? segment = some reference := by
  unfold Resolve.reference at hok
  split at hok
  · cases hok
  · next parsed hparse =>
    split at hok
    · cases hok
      rw [Reference.parse?, hparse]
      rfl
    · cases hok

end Declaration

open Declaration

/-- A plan holds what lines say: the groups and hosts that they name, and under
    each name what they declare for it or give to it. -/
structure Plan.Means (plan : Plan) (declarations : List Declaration) : Prop where
  names_groups : plan.groups.names = groupNames declarations
  references (name : Text) : ((plan.groups.get? name).getD Table.empty).references =
    Reference.settle (declared name declarations)
  names_hosts : plan.hosts.names = hostNames declarations
  invocations (host : Text) : (plan.hosts.get? host).getD [] = invocations host declarations

namespace Resolve

variable {catalog : Catalog} {plan : Plan} {earlier : List Declaration}

/-- A segment that can be used stands for what the lines above make of it. -/
private theorem eq_references_of_expand_eq_ok (hmeans : plan.Means earlier) {host segment : Text}
    {result : List Reference} (hok : expand catalog plan.groups host segment = .ok result) :
    result = Declaration.references earlier segment := by
  unfold expand at hok
  split at hok
  · next name =>
    split at hok
    · next group hget =>
      cases hok
      have hgroup := hmeans.references name
      rwa [hget] at hgroup
    · cases hok
  · next hnot =>
    cases hreference : reference catalog (.host host) segment with
    | error cause =>
      rw [hreference] at hok
      cases hok
    | ok parsed =>
      rw [hreference] at hok
      cases hok
      rw [Declaration.references.eq_2 _ _ hnot, parse?_of_reference_eq_ok hreference]
      rfl

private theorem means_step_group (hmeans : plan.Means earlier) {line : Line} {name : Text}
    {segments : List Piece}
    (hnone : (step catalog plan ⟨line, .group name segments⟩).2 = []) :
    (step catalog plan ⟨line, .group name segments⟩).1.Means
      (earlier ++ [.group name (segments.map Piece.text)]) := by
  have hread := exists_ok_of_collect_eq_nil hnone
  have hcollected : (collect line (reference catalog (.group name)) segments).1 =
      (segments.map Piece.text).filterMap Reference.parse? := by
    rw [collect_fst]
    apply List.filterMap_congr
    intro segment hmem
    obtain ⟨result, hresult⟩ := hread segment hmem
    rw [hresult, parse?_of_reference_eq_ok hresult]
    rfl
  refine ⟨names_groups_step hmeans.names_groups ⟨line, .group name segments⟩, ?_, ?_, ?_⟩
  · intro other
    change (((plan.define name _).groups.get? other).getD Table.empty).references = _
    rw [Plan.define, Table.get?_change, declared_concat, declaredOn]
    by_cases hother : other = name
    · have hgroup := hmeans.references name
      rw [if_pos hother, if_pos hother.symm, Option.getD_some, hcollected, hother]
      exact Group.references_foldl_add hgroup _
    · rw [if_neg hother, if_neg fun heq => hother heq.symm, List.append_nil]
      exact hmeans.references other
  · rw [hostNames_concat]
    exact hmeans.names_hosts
  · intro host
    rw [invocations_concat]
    exact (hmeans.invocations host).trans (List.append_nil _).symm

private theorem means_step_host (hmeans : plan.Means earlier) {line : Line} {name : Text}
    {segments : List Piece}
    (hnone : (step catalog plan ⟨line, .host name segments⟩).2 = []) :
    (step catalog plan ⟨line, .host name segments⟩).1.Means
      (earlier ++ [.host name (segments.map Piece.text)]) := by
  have hread := exists_ok_of_collect_eq_nil hnone
  have hcollected : (collect line (expand catalog plan.groups name) segments).1 =
      (segments.map Piece.text).map (Declaration.references earlier) := by
    rw [collect_fst, ← List.filterMap_eq_map (f := Declaration.references earlier)]
    apply List.filterMap_congr
    intro segment hmem
    obtain ⟨result, hresult⟩ := hread segment hmem
    rw [hresult, eq_references_of_expand_eq_ok hmeans hresult]
    rfl
  refine ⟨names_groups_step hmeans.names_groups ⟨line, .host name segments⟩, ?_, ?_, ?_⟩
  · intro other
    rw [declared_concat]
    exact (hmeans.references other).trans (congrArg _ (List.append_nil _).symm)
  · rw [hostNames_concat]
    change (plan.assign name _).hosts.names = _
    rw [Plan.assign, Table.names_change, hmeans.names_hosts]
    rfl
  · intro host
    change ((plan.assign name _).hosts.get? host).getD [] = _
    rw [Plan.assign, Table.get?_change, invocations_concat, invocationsOn]
    by_cases hhost : host = name
    · rw [if_pos hhost, if_pos hhost.symm, Option.getD_some, hcollected, hhost,
        hmeans.invocations name, List.flatMap_def]
    · rw [if_neg hhost, if_neg fun heq => hhost heq.symm, List.append_nil]
      exact hmeans.invocations host

/-- A step without problems adds to a plan what its clause says. -/
private theorem means_step (hmeans : plan.Means earlier) {clause : Clause}
    (hnone : (step catalog plan clause).2 = []) :
    (step catalog plan clause).1.Means (earlier ++ [clause.declaration]) := by
  obtain ⟨line, statement⟩ := clause
  cases statement with
  | group name segments => exact means_step_group hmeans hnone
  | host name segments => exact means_step_host hmeans hnone
  | malformed expected => cases hnone

private theorem means_steps (hmeans : plan.Means earlier) {clauses : List Clause}
    (hnone : (steps catalog plan clauses).2.flatMap Prod.snd = []) :
    (steps catalog plan clauses).1.Means
      (earlier ++ clauses.map Clause.declaration) := by
  induction clauses generalizing plan earlier with
  | nil =>
    rw [List.map_nil, List.append_nil]
    exact hmeans
  | cons clause rest ih =>
    rw [steps_cons, List.flatMap_cons, List.append_eq_nil_iff] at hnone
    have hrest := ih (means_step hmeans hnone.1) hnone.2
    rw [List.append_assoc, List.singleton_append] at hrest
    exact hrest

end Resolve

namespace Plan.Means

variable {plan : Plan} {declarations : List Declaration}

theorem host?_eq (hmeans : plan.Means declarations) (host : Text) :
    plan.host? host =
      if host ∈ hostNames declarations then some (Declaration.invocations host declarations)
      else none := by
  have hinvocations := hmeans.invocations host
  rw [← hmeans.names_hosts, Plan.host?]
  cases hget : plan.hosts.get? host with
  | none => rw [if_neg (Table.get?_eq_none_iff.mp hget)]
  | some invocations =>
    rw [hget, Option.getD_some] at hinvocations
    rw [if_pos (Table.mem_names_of_get?_eq_some hget), hinvocations]

/-- A host of the plan has what its lines give to it. -/
theorem host?_eq_some_iff (hmeans : plan.Means declarations) {host : Text}
    {given : List Invocation} :
    plan.host? host = some given ↔
      host ∈ hostNames declarations ∧ given = Declaration.invocations host declarations := by
  rw [hmeans.host?_eq]
  split
  · next hmem => simp [hmem, eq_comm]
  · next hnot => simp [hnot]

theorem map_group?_eq (hmeans : plan.Means declarations) (name : Text) :
    (plan.group? name).map Group.references =
      if name ∈ groupNames declarations then
        some (Reference.settle (declared name declarations))
      else none := by
  have hreferences := hmeans.references name
  rw [← hmeans.names_groups, Plan.group?]
  cases hget : plan.groups.get? name with
  | none => rw [if_neg (Table.get?_eq_none_iff.mp hget), Option.map_none]
  | some group =>
    rw [hget, Option.getD_some] at hreferences
    rw [if_pos (Table.mem_names_of_get?_eq_some hget), Option.map_some, hreferences]

variable {other : Plan} {otherDeclarations : List Declaration}

/-- Lines that declare the same for the same groups leave the same groups. -/
theorem groups_eq (hmeans : plan.Means declarations) (hother : other.Means otherDeclarations)
    (hnames : groupNames declarations = groupNames otherDeclarations)
    (hdeclared : ∀ name, declared name declarations = declared name otherDeclarations) :
    plan.groups = other.groups := by
  apply Table.eq_of_get?_eq
  · rw [hmeans.names_groups, hother.names_groups, hnames]
  · intro name
    have hreferences : (plan.group? name).map Group.references =
        (other.group? name).map Group.references := by
      rw [hmeans.map_group?_eq, hother.map_group?_eq, hnames, hdeclared]
    exact Option.map_injective (fun _ _ => Group.eq_of_references_eq) hreferences

/-- Lines that give the same to the same hosts leave the same hosts. -/
private theorem hosts_eq (hmeans : plan.Means declarations) (hother : other.Means otherDeclarations)
    (hnames : hostNames declarations = hostNames otherDeclarations)
    (hinvocations : ∀ host, Declaration.invocations host declarations =
      Declaration.invocations host otherDeclarations) : plan.hosts = other.hosts := by
  apply Table.eq_of_get?_eq
  · rw [hmeans.names_hosts, hother.names_hosts, hnames]
  · intro host
    change plan.host? host = other.host? host
    rw [hmeans.host?_eq, hother.host?_eq, hnames, hinvocations]

/-- A group of the plan has the references that are declared for it. -/
theorem references_of_group? (hmeans : plan.Means declarations) {name : Text} {group : Group}
    (hgroup : plan.group? name = some group) :
    name ∈ groupNames declarations ∧
      group.references = Reference.settle (declared name declarations) := by
  have hname := hmeans.names_groups ▸ Table.mem_names_of_get?_eq_some hgroup
  have hreferences := hmeans.map_group?_eq name
  rw [hgroup, if_pos hname, Option.map_some, Option.some.injEq] at hreferences
  exact ⟨hname, hreferences⟩

/-- There is one plan at most that holds what lines say. -/
theorem unique (hmeans : plan.Means declarations) (hother : other.Means declarations) :
    plan = other := by
  have hgroups := hmeans.groups_eq hother rfl fun _ => rfl
  have hhosts := hmeans.hosts_eq hother rfl fun _ => rfl
  cases plan
  cases other
  cases hgroups
  cases hhosts
  rfl

private theorem invocationCount_eq (hmeans : plan.Means declarations) :
    plan.invocationCount =
      ((hostNames declarations).flatMap fun host =>
        Declaration.invocations host declarations).length := by
  have hvalues : plan.hosts.values =
      (hostNames declarations).map fun host => Declaration.invocations host declarations := by
    have hnames := congrArg (List.map (Option.getD · [])) (Table.map_get?_names plan.hosts)
    rw [List.map_map, List.map_map, hmeans.names_hosts] at hnames
    calc plan.hosts.values
        = plan.hosts.values.map ((Option.getD · []) ∘ some) := (List.map_id' _).symm
      _ = (hostNames declarations).map ((Option.getD · []) ∘ plan.hosts.get?) := hnames.symm
      _ = (hostNames declarations).map fun host => Declaration.invocations host declarations :=
        List.map_congr_left fun host _ => hmeans.invocations host
  rw [Plan.invocationCount, hvalues, List.flatMap_def]

end Plan.Means

namespace Catalog

theorem means_of_resolve_eq_ok {catalog : Catalog} {source : Text} {plan : Plan}
    (haccept : catalog.resolve source = .ok plan) : plan.Means source.declarations := by
  obtain ⟨rfl, hnone⟩ := resolve_eq_ok_iff.mp haccept
  have hempty : Plan.empty.Means [] := ⟨rfl, fun _ => rfl, rfl, fun _ => rfl⟩
  have hmeans := Resolve.means_steps hempty hnone
  rwa [List.nil_append, Text.map_declaration_clauses] at hmeans

/-- The problems settle whether there is a plan, and the source settles which. -/
theorem resolve_eq_of_reported_eq {catalog other : Catalog} {source : Text}
    (hreported : Problem.reported (other.resolve source) =
      Problem.reported (catalog.resolve source)) :
    other.resolve source = catalog.resolve source := by
  cases haccept : catalog.resolve source with
  | ok plan =>
    rw [haccept] at hreported
    obtain ⟨otherPlan, hother⟩ := exists_resolve_eq_ok_iff_reported.mpr hreported
    rw [hother, (means_of_resolve_eq_ok hother).unique (means_of_resolve_eq_ok haccept)]
  | error problems =>
    cases hother : other.resolve source with
    | ok plan =>
      rw [hother] at hreported
      obtain ⟨accepted, haccepted⟩ := exists_resolve_eq_ok_iff_reported.mpr hreported.symm
      cases haccept.symm.trans haccepted
    | error others =>
      rw [haccept, hother] at hreported
      exact congrArg Except.error hreported

/-- The plan of an accepted source is what its lines say. It has the hosts
    that lines assign to, each with the invocations of its lines, and the
    groups that lines add to. A group on a host's line stands for what the
    lines above it declare, and a group of the plan for what all lines
    declare. -/
theorem plan_says_what_lines_say {catalog : Catalog} {source : Text} {plan : Plan}
    (haccept : catalog.resolve source = .ok plan) :
    (∀ host, plan.host? host =
      if host ∈ hostNames source.declarations then some (invocations host source.declarations)
      else none) ∧
    (∀ name, (plan.group? name).map Group.references =
      if name ∈ groupNames source.declarations then
        some (Reference.settle (declared name source.declarations))
      else none) ∧
    plan.invocationCount =
      ((hostNames source.declarations).flatMap fun host =>
        invocations host source.declarations).length := by
  have hmeans := means_of_resolve_eq_ok haccept
  exact ⟨hmeans.host?_eq, hmeans.map_group?_eq, hmeans.invocationCount_eq⟩

/-- A group that is declared again between two uses changes the later use
    only, and keeps its order. -/
theorem plan_says_what_lines_say_redeclared :
    ∃ plan : Plan,
      Catalog.resolve ⟨[⟨['a'], [], 1⟩, ⟨['b'], [], 2⟩], by decide⟩
        "@g $a 1, $b 2\nh @g\n@g $a 9\nh $b, @g\n".toList = .ok plan ∧
      plan.host? ['h'] = some
        [⟨['a'], [['h'], ['1']]⟩, ⟨['b'], [['h'], ['2']]⟩, ⟨['b'], [['h']]⟩,
          ⟨['a'], [['h'], ['9']]⟩, ⟨['b'], [['h'], ['2']]⟩] ∧
      plan.invocationCount = 5 := by
  obtain ⟨plan, haccept⟩ : ∃ plan, Catalog.resolve ⟨[⟨['a'], [], 1⟩, ⟨['b'], [], 2⟩], by decide⟩
    "@g $a 1, $b 2\nh @g\n@g $a 9\nh $b, @g\n".toList = .ok plan := ⟨_, rfl⟩
  obtain ⟨hhosts, -, hcount⟩ := plan_says_what_lines_say haccept
  refine ⟨plan, haccept, ?_, ?_⟩
  · rw [hhosts]
    decide
  · rw [hcount]
    decide

end Catalog

end CheckPlan
