import CheckPlan.Proofs.Assignment.Accepted
import CheckPlan.Proofs.Assignment.SpelledOut
import CheckPlan.Proofs.Plan.Sorted

namespace CheckPlan

/-- The name of a group as it stands on a line. -/
structure IsGroupName (name : Text) : Prop where
  ne_nil : name ≠ []
  no_space : ' ' ∉ name
  no_feed : '\n' ∉ name

/-- The group has checks, each once, and the catalog has a template for each. -/
structure Group.Complete (catalog : Catalog) (group : Group) : Prop where
  ne_nil : group.names ≠ []
  distinct : group.names.Nodup
  contains : ∀ check ∈ group.names, catalog.contains check = true

/-- The invocation is for the host, of a check that the catalog has a template
    for. The arguments behind the host hold no quote, comma or line feed. -/
structure Invocation.Complete (catalog : Catalog) (host : Text) (invocation : Invocation) :
    Prop where
  contains : catalog.contains invocation.check = true
  args : ∃ rest, invocation.args = host :: rest ∧
    ∀ arg ∈ rest, '"' ∉ arg ∧ ',' ∉ arg ∧ '\n' ∉ arg

/-- The groups and hosts of the plan have the names of lines, none of them is
    empty, and all that they hold is complete. Sorting lists the hosts, each
    once, by the bytes of their names. -/
structure Plan.WellFormed (catalog : Catalog) (plan : Plan) : Prop where
  isGroupName : ∀ name group, plan.group? name = some group → IsGroupName name
  groups : ∀ name group, plan.group? name = some group → group.Complete catalog
  isHostName : ∀ host invocations, plan.host? host = some invocations →
    Declaration.IsHostName host ∧ '\n' ∉ host
  hosts_ne_nil : ∀ host invocations, plan.host? host = some invocations → invocations ≠ []
  hosts : ∀ host invocations, plan.host? host = some invocations →
    ∀ invocation ∈ invocations, invocation.Complete catalog host
  mem_sortedHosts_iff : ∀ entry, entry ∈ plan.sortedHosts ↔ plan.host? entry.1 = some entry.2
  increasing : Text.Increasing (plan.sortedHosts.map Prod.fst)

namespace Declaration

section Names

variable {source name : Text}

/-- A group's line is, trimmed, an at sign, the group's name, a space and more. -/
private theorem exists_of_ofLine?_eq_group {raw : Text} {segments : List Text}
    (hline : ofLine? raw = some (.group name segments)) :
    ' ' ∉ name ∧ name ≠ [] ∧ ∃ rest, Text.trim raw = '@' :: (name ++ ' ' :: rest) := by
  obtain ⟨-, -, hline⟩ := ofLine?_eq_some_iff.mp hline
  unfold ofText at hline
  split at hline
  · next text htrim =>
    cases hdefinition : definition? text with
    | none => simp [hdefinition] at hline
    | some found =>
      simp only [hdefinition, Declaration.group.injEq] at hline
      obtain ⟨rfl, rfl⟩ := hline
      obtain ⟨rest, rfl, hspace, hne, -⟩ := definition?_eq_some_iff.mp hdefinition
      exact ⟨hspace, hne, rest, htrim⟩
  · next hgroup =>
    cases hdefinition : definition? (Text.trim raw) <;> simp [hdefinition] at hline

private theorem isGroupName_of_mem_groupNames (hmem : name ∈ groupNames source.declarations) :
    IsGroupName name := by
  obtain ⟨segments, hgroup⟩ := mem_groupNames_iff.mp hmem
  obtain ⟨raw, hline, hfeed⟩ := Text.exists_of_mem_declarations hgroup
  obtain ⟨hspace, hne, rest, htrim⟩ := exists_of_ofLine?_eq_group hline
  rw [htrim] at hfeed
  refine ⟨hne, hspace, fun hmem => hfeed ?_⟩
  exact List.mem_cons_of_mem _ (List.mem_append_left _ hmem)

theorem isHostName_of_mem_hostNames (hmem : name ∈ hostNames source.declarations) :
    IsHostName name ∧ '\n' ∉ name := by
  obtain ⟨segments, hhost⟩ := mem_hostNames_iff.mp hmem
  obtain ⟨raw, hline, hfeed⟩ := Text.exists_of_mem_declarations hhost
  obtain ⟨hname, rest, htrim, -⟩ := exists_of_ofLine?_eq_host hline
  rw [htrim] at hfeed
  exact ⟨hname, fun hmem => hfeed (List.mem_append_left _ hmem)⟩

end Names

variable {catalog : Catalog} {source : Text}

/-- A host that some line assigns to is given something. -/
private theorem invocations_ne_nil (hnone : catalog.causes source = []) {host : Text}
    (hhost : host ∈ hostNames source.declarations) : invocations host source.declarations ≠ [] := by
  obtain ⟨segments, hdeclaration⟩ := mem_hostNames_iff.mp hhost
  obtain ⟨before, hbefore⟩ := exists_mem_withEarlier [] hdeclaration
  have hne : segments ≠ [] := segments_ne_nil hdeclaration (by simp)
  obtain ⟨segment, hsegment⟩ := List.exists_mem_of_ne_nil segments hne
  obtain ⟨reference, hreference⟩ :=
    List.exists_mem_of_ne_nil _ (references_ne_nil hnone hbefore hsegment)
  have hgiven : Invocation.ofReference host reference ∈ invocations host source.declarations :=
    mem_invocations_iff.mpr
      ⟨before, segments, hbefore, segment, hsegment, reference, hreference, rfl⟩
  exact List.ne_nil_of_mem hgiven

end Declaration

private theorem Invocation.complete_ofReference {catalog : Catalog} {reference : Reference}
    (hplain : reference.Plain) (hcontains : catalog.contains reference.check = true)
    (host : Text) : (Invocation.ofReference host reference).Complete catalog host :=
  ⟨hcontains, reference.args, rfl, fun arg hmem => hplain arg (List.mem_cons_of_mem _ hmem)⟩

namespace Plan.Means

open Declaration

variable {catalog : Catalog} {source : Text} {plan : Plan}

/-- A group of an accepted source has the checks that are declared for it. -/
private theorem complete_of_group? (hmeans : plan.Means source.declarations)
    (hnone : catalog.causes source = []) {name : Text} {group : Group}
    (hgroup : plan.group? name = some group) : group.Complete catalog := by
  obtain ⟨hname, hreferences⟩ := hmeans.references_of_group? hgroup
  have hnames : group.names =
      (Reference.settle (declared name source.declarations)).map Reference.check := by
    rw [← Group.map_check_references, hreferences]
  refine ⟨?_, group.distinct, ?_⟩
  · rw [hnames, ne_eq, List.map_eq_nil_iff]
    exact Reference.settle_ne_nil (declared_ne_nil hnone (List.Subset.refl _) hname)
  · intro check hcheck
    rw [hnames] at hcheck
    obtain ⟨reference, hreference, rfl⟩ := List.mem_map.mp hcheck
    exact (of_mem_declared hnone (List.Subset.refl _) (Reference.mem_of_mem_settle hreference)).2

/-- What a host of an accepted source is given is complete. -/
theorem complete_of_host? (hmeans : plan.Means source.declarations)
    (hnone : catalog.causes source = []) {host : Text} {given : List Invocation}
    (hhost : plan.host? host = some given) :
    ∀ invocation ∈ given, invocation.Complete catalog host := by
  obtain ⟨-, rfl⟩ := hmeans.host?_eq_some_iff.mp hhost
  intro invocation hmem
  obtain ⟨reference, rfl, hplain, hcontains⟩ := exists_reference_of_mem_invocations hnone hmem
  exact Invocation.complete_ofReference hplain hcontains host

end Plan.Means

namespace Catalog

/-- A plan that is made is well-formed, whatever the catalog and the source. -/
theorem wellFormed_of_accepted {catalog : Catalog} {source : Text} {plan : Plan}
    (haccept : catalog.resolve source = .ok plan) : plan.WellFormed catalog := by
  have hmeans := means_of_resolve_eq_ok haccept
  have hnone := causes_eq_nil_of_resolve_eq_ok haccept
  constructor
  · intro name group hgroup
    exact Declaration.isGroupName_of_mem_groupNames (hmeans.references_of_group? hgroup).1
  · intro name group hgroup
    exact hmeans.complete_of_group? hnone hgroup
  · intro host invocations hhost
    exact Declaration.isHostName_of_mem_hostNames (hmeans.host?_eq_some_iff.mp hhost).1
  · intro host invocations hhost
    obtain ⟨hmem, rfl⟩ := hmeans.host?_eq_some_iff.mp hhost
    exact Declaration.invocations_ne_nil hnone hmem
  · intro host invocations hhost
    exact hmeans.complete_of_host? hnone hhost
  · exact fun entry => Plan.mem_sortedHosts_iff_host?
  · exact plan.hosts.increasing_sorted

/-- Quotes, commas and blanks of a line are no part of what the plan holds. -/
theorem wellFormed_of_accepted_quoted :
    ∃ plan, resolve ⟨[⟨['a'], [], 1⟩, ⟨['b'], [], 2⟩], by decide⟩
        "@g $a \"1 2\" , $b\r\n k @g,$a x\n#\n h $b\n".toList = .ok plan ∧
      plan.WellFormed ⟨[⟨['a'], [], 1⟩, ⟨['b'], [], 2⟩], by decide⟩ ∧
      plan.host? ['k'] = some
        [⟨['a'], [['k'], "1 2".toList]⟩, ⟨['b'], [['k']]⟩, ⟨['a'], [['k'], ['x']]⟩] := by
  obtain ⟨plan, haccept⟩ : ∃ plan, resolve ⟨[⟨['a'], [], 1⟩, ⟨['b'], [], 2⟩], by decide⟩
    "@g $a \"1 2\" , $b\r\n k @g,$a x\n#\n h $b\n".toList = .ok plan := ⟨_, rfl⟩
  refine ⟨plan, haccept, wellFormed_of_accepted haccept, ?_⟩
  cases haccept
  decide

end Catalog

end CheckPlan
