import CheckPlan.Output.Body
import CheckPlan.Proofs.Assignment.Accepted
import CheckPlan.Proofs.Assignment.SpelledOut

namespace CheckPlan

namespace Declaration

section Accepted

variable {catalog : Catalog} {source : Text} {earlier : List Declaration}

/-- The spellings of a segment can take its place on a line: they are segments
    that refer to checks, and together stand for what it stands for. -/
structure Replaceable (catalog : Catalog) (earlier : List Declaration) (segment : Text) :
    Prop where
  ne_nil : spellings earlier segment ≠ []
  isSegment : ∀ spelling ∈ spellings earlier segment, spelling.IsSegment
  isDirect : ∀ spelling ∈ spellings earlier segment, IsDirect catalog spelling
  references_eq (later : List Declaration) :
    (spellings earlier segment).flatMap (references later) = references earlier segment

private theorem replaceable_of_isDirect {segment : Text} (hdirect : IsDirect catalog segment)
    (hsegment : segment.IsSegment) : Replaceable catalog earlier segment := by
  have hspellings : spellings earlier segment = [segment] := spellings.eq_2 _ _ hdirect.ne_at
  constructor
  · rw [hspellings]
    exact List.cons_ne_nil _ _
  · rw [hspellings]
    exact List.forall_mem_singleton.mpr hsegment
  · rw [hspellings]
    exact List.forall_mem_singleton.mpr hdirect
  · intro later
    rw [hspellings, List.flatMap_singleton, hdirect.references_eq, hdirect.references_eq]

private theorem replaceable_of_mem_groupNames (hnone : catalog.causes source = [])
    (hearlier : earlier ⊆ source.declarations) {name : Text} (hname : name ∈ groupNames earlier) :
    Replaceable catalog earlier ('@' :: name) := by
  have hsettled : ∀ reference ∈ Reference.settle (declared name earlier),
      reference.Plain ∧ catalog.contains reference.check = true :=
    fun _ hmem => of_mem_declared hnone hearlier (Reference.mem_of_mem_settle hmem)
  have hdirect : ∀ reference ∈ Reference.settle (declared name earlier),
      IsDirect catalog reference.quoted :=
    fun reference hmem =>
      ⟨reference, (hsettled reference hmem).1.parse_quoted, (hsettled reference hmem).2⟩
  constructor
  · rw [spellings, ne_eq, List.map_eq_nil_iff]
    exact Reference.settle_ne_nil (declared_ne_nil hnone hearlier hname)
  · rw [spellings, List.forall_mem_map]
    exact fun reference hmem => (hsettled reference hmem).1.isSegment_quoted
  · rw [spellings, List.forall_mem_map]
    exact hdirect
  · intro later
    rw [spellings, List.flatMap_map, references]
    calc (Reference.settle (declared name earlier)).flatMap (fun reference =>
          references later reference.quoted)
        = (Reference.settle (declared name earlier)).flatMap fun reference => [reference] := by
          apply List.flatMap_congr
          intro reference hmem
          rw [(hdirect reference hmem).references_eq, Reference.parse?,
            (hsettled reference hmem).1.parse_quoted]
          rfl
      _ = Reference.settle (declared name earlier) := List.flatMap_singleton' _

theorem replaceable_of_host_mem (hnone : catalog.causes source = []) {name : Text}
    {segments : List Text}
    (hmem : (earlier, .host name segments) ∈ withEarlier [] source.declarations) :
    ∀ segment ∈ segments, Replaceable catalog earlier segment := by
  intro segment hsegment
  rcases isDirect_or_group_of_host_mem hnone hmem hsegment with hdirect | ⟨group, hgroup, rfl⟩
  · have hsource := mem_of_mem_withEarlier hmem
    obtain ⟨hcomma, hfeed, htrim⟩ := of_mem_segments hsource segment hsegment
    exact replaceable_of_isDirect hdirect ⟨hdirect.ne_nil, hcomma, hfeed, htrim⟩
  · exact replaceable_of_mem_groupNames hnone (subset_of_mem_withEarlier hmem) hgroup

/-- An accepted source declares the same with its groups spelled out, but for
    the groups. -/
theorem declarations_spelledOut_of_causes (hnone : catalog.causes source = []) :
    source.spelledOut.declarations =
      (withEarlier [] source.declarations).filterMap fun (earlier, declaration) =>
        declaration.spelled? earlier := by
  apply Text.declarations_spelledOut
  intro before name segments hmem segment hsegment
  have hreplaceable := replaceable_of_host_mem hnone hmem segment hsegment
  exact ⟨hreplaceable.ne_nil, hreplaceable.isSegment⟩

/-- Spelled out, there are only lines of hosts, and only references on them. -/
theorem exists_host_of_mem_spelledOut (hnone : catalog.causes source = [])
    {declaration : Declaration} (hmem : declaration ∈ source.spelledOut.declarations) :
    ∃ name segments, declaration = .host name segments ∧
      ∀ segment ∈ segments, IsDirect catalog segment := by
  rw [declarations_spelledOut_of_causes hnone] at hmem
  obtain ⟨⟨before, original⟩, hpair, hspelled⟩ := List.mem_filterMap.mp hmem
  cases original with
  | group name segments => cases hspelled
  | malformed expected =>
    have hcauses := Catalog.causes_eq_nil_iff.mp hnone _ _ hpair
    cases hcauses
  | host name segments =>
    cases hspelled
    refine ⟨name, _, rfl, ?_⟩
    intro spelling hspelling
    obtain ⟨segment, hsegment, hspelling⟩ := List.mem_flatMap.mp hspelling
    exact (replaceable_of_host_mem hnone hpair segment hsegment).isDirect spelling hspelling

private theorem causes_spelledOut (hnone : catalog.causes source = []) :
    catalog.causes source.spelledOut = [] := by
  rw [Catalog.causes, List.flatMap_eq_nil_iff]
  rintro ⟨before, declaration⟩ hmem
  obtain ⟨name, segments, rfl, hdirect⟩ :=
    exists_host_of_mem_spelledOut hnone (mem_of_mem_withEarlier hmem)
  change (causes catalog before (.host name segments)) = []
  rw [causes, List.filterMap_eq_nil_iff]
  exact fun segment hsegment => (hdirect segment hsegment).segmentCause?_eq_none before name

private theorem groupNames_spelledOut (hnone : catalog.causes source = []) :
    groupNames source.spelledOut.declarations = [] := by
  have hgroups : source.spelledOut.declarations.filterMap group? = [] := by
    rw [List.filterMap_eq_nil_iff]
    intro declaration hmem
    obtain ⟨name, segments, rfl, -⟩ := exists_host_of_mem_spelledOut hnone hmem
    rfl
  rw [groupNames, hgroups]
  rfl

private theorem hostNames_spelledOut (hnone : catalog.causes source = []) :
    hostNames source.spelledOut.declarations = hostNames source.declarations := by
  have hhosts : source.spelledOut.declarations.filterMap host? =
      source.declarations.filterMap host? := by
    rw [declarations_spelledOut_of_causes hnone, List.filterMap_filterMap]
    conv_rhs => rw [← map_snd_withEarlier [] source.declarations, List.filterMap_map]
    apply List.filterMap_congr
    rintro ⟨before, declaration⟩ -
    cases declaration <;> rfl
  rw [hostNames, hhosts, hostNames]

private theorem invocations_spelledOut (hnone : catalog.causes source = []) (host : Text) :
    invocations host source.spelledOut.declarations = invocations host source.declarations := by
  -- Spelled out, no line looks at the lines above it, so each can be read alone.
  have halone : ∀ declaration ∈ source.spelledOut.declarations, ∀ before,
      invocationsOn host before declaration = invocationsOn host [] declaration := by
    intro declaration hmem before
    obtain ⟨name, segments, rfl, hdirect⟩ := exists_host_of_mem_spelledOut hnone hmem
    have hreferences : segments.flatMap (references before) = segments.flatMap (references []) := by
      apply List.flatMap_congr
      intro segment hsegment
      rw [(hdirect segment hsegment).references_eq, (hdirect segment hsegment).references_eq]
    rw [invocationsOn, invocationsOn, hreferences]
  rw [invocations, flatMap_withEarlier halone, declarations_spelledOut_of_causes hnone,
    List.filterMap_eq_flatMap_toList, List.flatMap_assoc, invocations]
  apply List.flatMap_congr
  rintro ⟨before, declaration⟩ hmem
  cases declaration with
  | group name segments => rfl
  | malformed expected => rfl
  | host name segments =>
    have hreferences : (segments.flatMap (spellings before)).flatMap (references []) =
        segments.flatMap (references before) := by
      rw [List.flatMap_assoc]
      apply List.flatMap_congr
      intro segment hsegment
      exact (replaceable_of_host_mem hnone hmem segment hsegment).references_eq []
    change invocationsOn host [] (.host name (segments.flatMap (spellings before))) ++ [] =
      invocationsOn host before (.host name segments)
    rw [List.append_nil, invocationsOn, invocationsOn, hreferences]

end Accepted

end Declaration

namespace Catalog

/-- Groups only abbreviate. An accepted source is accepted without its groups
    as well, when each use of a group gives way to the references that the
    group holds on that line, and then every host has the same invocations. -/
theorem resolve_spelledOut {catalog : Catalog} {source : Text} {plan : Plan}
    (haccept : catalog.resolve source = .ok plan) :
    ∃ direct : Plan, catalog.resolve source.spelledOut = .ok direct ∧
      direct.hosts = plan.hosts ∧ direct.groups = Table.empty ∧
      direct.sortedHosts = plan.sortedHosts ∧
      direct.invocationCount = plan.invocationCount ∧
      Output.body catalog direct = Output.body catalog plan := by
  have hnone := (exists_resolve_eq_ok_iff catalog source).mp ⟨plan, haccept⟩
  obtain ⟨direct, hdirect⟩ := (exists_resolve_eq_ok_iff catalog source.spelledOut).mpr
    (Declaration.causes_spelledOut hnone)
  have hmeans := means_of_resolve_eq_ok haccept
  have hspelled := means_of_resolve_eq_ok hdirect
  have hhosts : direct.hosts = plan.hosts := by
    apply Table.eq_of_get?_eq
    · rw [hspelled.names_hosts, hmeans.names_hosts, Declaration.hostNames_spelledOut hnone]
    · intro host
      change direct.host? host = plan.host? host
      rw [hspelled.host?_eq, hmeans.host?_eq, Declaration.hostNames_spelledOut hnone,
        Declaration.invocations_spelledOut hnone]
  have hgroups : direct.groups = Table.empty := by
    have hnames : direct.groups.names = [] := by
      rw [hspelled.names_groups, Declaration.groupNames_spelledOut hnone]
    apply Table.eq_of_get?_eq hnames
    intro name
    rw [Table.get?_empty, Table.get?_eq_none_iff, hnames]
    exact List.not_mem_nil
  refine ⟨direct, hdirect, hhosts, hgroups, ?_, ?_, ?_⟩
  · rw [Plan.sortedHosts, hhosts, Plan.sortedHosts]
  · rw [Plan.invocationCount, hhosts, Plan.invocationCount]
  · rw [Output.body, Plan.sortedHosts, hhosts, Output.body, Plan.sortedHosts]

/-- A group is spelled out as it stands where it is used, and its lines go. -/
theorem resolve_spelledOut_redeclared :
    ∃ direct : Plan,
      Catalog.resolve ⟨[⟨['a'], [], 1⟩, ⟨['b'], [], 2⟩], by decide⟩
        "h \"$a\" \"1 2\",\"$b\"\nh $b , \"$a\",\"$b\" \n".toList = .ok direct ∧
      direct.groups = Table.empty ∧
      direct.host? ['h'] = some
        [⟨['a'], [['h'], ['1', ' ', '2']]⟩, ⟨['b'], [['h']]⟩, ⟨['b'], [['h']]⟩,
          ⟨['a'], [['h']]⟩, ⟨['b'], [['h']]⟩] := by
  obtain ⟨plan, haccept⟩ : ∃ plan, Catalog.resolve ⟨[⟨['a'], [], 1⟩, ⟨['b'], [], 2⟩], by decide⟩
    "@g $a \"1 2\", $b\nh @g\n@g $a\nh $b , @g \n".toList = .ok plan := ⟨_, rfl⟩
  have hspelled : Text.spelledOut "@g $a \"1 2\", $b\nh @g\n@g $a\nh $b , @g \n".toList =
      "h \"$a\" \"1 2\",\"$b\"\nh $b , \"$a\",\"$b\" \n".toList := by decide
  obtain ⟨direct, hdirect, hhosts, hgroups, -⟩ := resolve_spelledOut haccept
  rw [hspelled] at hdirect
  refine ⟨direct, hdirect, hgroups, ?_⟩
  rw [Plan.host?, hhosts]
  cases haccept
  decide

end Catalog

end CheckPlan
