import CheckPlan.Compilation
import CheckPlan.Proofs.Assignment.Slice
import CheckPlan.Proofs.Plan.Sorted

namespace CheckPlan

namespace Output

private theorem body_only (catalog : Catalog) (plan : Plan) (host : Text)
    (invocations : List Invocation) :
    body catalog (plan.only host invocations) = invocations.flatMap (block catalog) := by
  have hsorted : (plan.only host invocations).sortedHosts = [(host, invocations)] :=
    List.mergeSort_singleton _
  rw [body, hsorted, List.flatMap_singleton]

theorem body_eq_flatMap_only (catalog : Catalog) (plan : Plan) :
    body catalog plan = plan.sortedHosts.flatMap fun (host, invocations) =>
      body catalog (plan.only host invocations) := by
  simp only [body_only]
  rfl

end Output

namespace Catalog

variable {catalog : Catalog} {source other : Text} {plan otherPlan : Plan}

/-- The catalog accepts both sources and prints the same for them. -/
def PrintsAlike (catalog : Catalog) (source other : Text) : Prop :=
  ∃ plan otherPlan, catalog.resolve source = .ok plan ∧ catalog.resolve other = .ok otherPlan ∧
    ∀ options, Output.render catalog plan options = Output.render catalog otherPlan options

private theorem PrintsAlike.compile_eq (halike : catalog.PrintsAlike source other)
    {catalogSource : Text}
    (hparse : Catalog.parse catalogSource = .ok catalog) (options : OutputOptions) :
    compile catalogSource source options = compile catalogSource other options := by
  obtain ⟨plan, otherPlan, haccept, hother, hrender⟩ := halike
  have hcompiled : Compilation.ofSources catalogSource source = .ok ⟨catalog, plan⟩ :=
    Compilation.ofSources_eq_ok_iff.mpr ⟨hparse, haccept⟩
  have hotherCompiled : Compilation.ofSources catalogSource other = .ok ⟨catalog, otherPlan⟩ :=
    Compilation.ofSources_eq_ok_iff.mpr ⟨hparse, hother⟩
  rw [compile_eq_ok hcompiled, compile_eq_ok hotherCompiled, Compilation.render, hrender,
    Compilation.render]

/-- The slices for the hosts of a plan settle the invocations of all of them. -/
private theorem host?_eq_of_hostSlice_eq (haccept : catalog.resolve source = .ok plan)
    (hother : catalog.resolve other = .ok otherPlan)
    (hnames : ∀ host, host ∈ otherPlan.hosts.names ↔ host ∈ plan.hosts.names)
    (hslices : ∀ host ∈ plan.hosts.names, other.hostSlice host = source.hostSlice host)
    (host : Text) : plan.host? host = otherPlan.host? host := by
  by_cases hname : host ∈ plan.hosts.names
  · obtain ⟨invocations, hhost⟩ : ∃ invocations, plan.host? host = some invocations :=
      Option.ne_none_iff_exists'.mp fun hnone => Table.get?_eq_none_iff.mp hnone hname
    obtain ⟨others, hothers⟩ : ∃ others, otherPlan.host? host = some others :=
      Option.ne_none_iff_exists'.mp fun hnone =>
        Table.get?_eq_none_iff.mp hnone ((hnames host).mpr hname)
    have hpart := resolve_hostSlice haccept hhost
    have hotherPart := resolve_hostSlice hother hothers
    rw [hslices host hname, hpart] at hotherPart
    have honly := congrArg (·.host? host) (Except.ok.inj hotherPart)
    simp only [Plan.host?_only, if_pos] at honly
    rw [hhost, hothers, honly]
  · have hnone : plan.host? host = none := Table.get?_eq_none_iff.mpr hname
    have hotherNone : otherPlan.host? host = none :=
      Table.get?_eq_none_iff.mpr fun hmem => hname ((hnames host).mp hmem)
    rw [hnone, hotherNone]

theorem printsAlike_of_hostSlice_eq (haccept : catalog.resolve source = .ok plan)
    (hother : catalog.resolve other = .ok otherPlan)
    (hnames : ∀ host, host ∈ otherPlan.hosts.names ↔ host ∈ plan.hosts.names)
    (hslices : ∀ host ∈ plan.hosts.names, other.hostSlice host = source.hostSlice host) :
    catalog.PrintsAlike source other := by
  refine ⟨plan, otherPlan, haccept, hother, fun options => ?_⟩
  have hsorted : plan.sortedHosts = otherPlan.sortedHosts :=
    Table.sorted_eq_of_get?_eq (host?_eq_of_hostSlice_eq haccept hother hnames hslices)
  rw [Output.render, Output.render, Output.body, Output.body, hsorted]

/-- When all slices are the same, the other source does not have to be known to
    be accepted, or to have the same hosts. -/
private theorem printsAlike_of_forall_hostSlice_eq (haccept : catalog.resolve source = .ok plan)
    (hslices : ∀ host, other.hostSlice host = source.hostSlice host) :
    catalog.PrintsAlike source other := by
  have hnone : catalog.causes other = [] := by
    rw [causes_eq_nil_iff_hostSlice]
    intro host
    rw [hslices]
    exact (causes_eq_nil_iff_hostSlice catalog source).mp
      (causes_eq_nil_of_resolve_eq_ok haccept) host
  obtain ⟨otherPlan, hother⟩ := (exists_resolve_eq_ok_iff catalog other).mpr hnone
  refine printsAlike_of_hostSlice_eq haccept hother (fun host => ?_) fun host _ => hslices host
  rw [(means_of_resolve_eq_ok hother).names_hosts, (means_of_resolve_eq_ok haccept).names_hosts,
    ← Text.mem_hostNames_hostSlice_iff, hslices, Text.mem_hostNames_hostSlice_iff]

/-- Hosts are independent of each other. The slice of an accepted source for a
    host is accepted, with the groups of the whole plan and this host alone, as
    it is there. The output puts those of the slices together in the order of
    the host names. Accepted sources with the same hosts and slices have the
    same output, as do all sources in which neighbouring lines of different
    hosts change places. -/
theorem hosts_independent (haccept : catalog.resolve source = .ok plan) :
    (∀ host invocations, plan.host? host = some invocations →
      catalog.resolve (source.hostSlice host) = .ok (plan.only host invocations)) ∧
    (plan.sortedHosts.Perm plan.hosts.entries ∧
      Text.Increasing (plan.sortedHosts.map Prod.fst) ∧
      Output.body catalog plan = plan.sortedHosts.flatMap fun (host, invocations) =>
        Output.body catalog (plan.only host invocations)) ∧
    (∀ other otherPlan, catalog.resolve other = .ok otherPlan →
      (∀ host, host ∈ otherPlan.hosts.names ↔ host ∈ plan.hosts.names) →
      (∀ host ∈ plan.hosts.names, other.hostSlice host = source.hostSlice host) →
      catalog.PrintsAlike source other) ∧
    (∀ other, Relation.ReflTransGen Text.Exchange source other →
      (∀ host, other.hostSlice host = source.hostSlice host) ∧
        catalog.PrintsAlike source other) ∧
    ∀ other, catalog.PrintsAlike source other →
      ∀ catalogSource, Catalog.parse catalogSource = .ok catalog →
        ∀ options, compile catalogSource source options = compile catalogSource other options := by
  refine ⟨fun host invocations => resolve_hostSlice haccept, ⟨?_, ?_, ?_⟩, ?_, ?_, ?_⟩
  · exact plan.hosts.sorted_perm
  · exact plan.hosts.increasing_sorted
  · exact Output.body_eq_flatMap_only catalog plan
  · intro other otherPlan hother hnames hslices
    exact printsAlike_of_hostSlice_eq haccept hother hnames hslices
  · intro other hexchanges
    have hslices := Text.hostSlice_eq_of_exchanges hexchanges
    exact ⟨hslices, printsAlike_of_forall_hostSlice_eq haccept hslices⟩
  · intro other halike catalogSource hparse options
    exact halike.compile_eq hparse options

/-- A host that uses a group, and another one that changes places with it. -/
theorem hosts_independent_exchanged :
    ∃ plan, resolve ⟨[⟨['a'], [], 1⟩], by decide⟩ "@g $a 1\nh @g\nk $a 2\n#\n".toList = .ok plan ∧
      resolve ⟨[⟨['a'], [], 1⟩], by decide⟩ "@g $a 1\nh @g\n#\n".toList =
        .ok (plan.only ['h'] [⟨['a'], [['h'], ['1']]⟩]) ∧
      Text.Exchange "@g $a 1\nh @g\nk $a 2\n#\n".toList "@g $a 1\nk $a 2\nh @g\n#\n".toList ∧
      PrintsAlike ⟨[⟨['a'], [], 1⟩], by decide⟩ "@g $a 1\nh @g\nk $a 2\n#\n".toList
        "@g $a 1\nk $a 2\nh @g\n#\n".toList := by
  obtain ⟨plan, haccept⟩ : ∃ plan, resolve ⟨[⟨['a'], [], 1⟩], by decide⟩
    "@g $a 1\nh @g\nk $a 2\n#\n".toList = .ok plan := ⟨_, rfl⟩
  obtain ⟨hslices, -, -, hexchanges, -⟩ := hosts_independent haccept
  have hhost : plan.host? ['h'] = some [⟨['a'], [['h'], ['1']]⟩] := by
    cases haccept
    decide
  have hexchange : Text.Exchange "@g $a 1\nh @g\nk $a 2\n#\n".toList
      "@g $a 1\nk $a 2\nh @g\n#\n".toList :=
    .swap ["@g $a 1\n".toList] "h @g\n".toList "k $a 2\n".toList ["#\n".toList] (by decide) rfl
      rfl (by decide) rfl rfl
  exact ⟨plan, haccept, hslices ['h'] _ hhost, hexchange, (hexchanges _ (.single hexchange)).2⟩

end Catalog

end CheckPlan
