import CheckPlan.Compilation
import CheckPlan.Proofs.Output.Blocks
import CheckPlan.Proofs.Template.Filled
import Mathlib.Algebra.GroupWithZero.Nat

namespace CheckPlan

/-- Neither the host nor what stands behind it holds a line feed. -/
private theorem Invocation.Complete.no_feed {catalog : Catalog} {host : Text}
    {invocation : Invocation}
    (hcomplete : invocation.Complete catalog host) (hhost : '\n' ∉ host) :
    ∀ arg ∈ invocation.args, '\n' ∉ arg := by
  obtain ⟨rest, hargs, hrest⟩ := hcomplete.args
  rw [hargs, List.forall_mem_cons]
  exact ⟨hhost, fun arg hmem => (hrest arg hmem).2.2⟩

namespace Output

variable {catalog : Catalog} {plan : Plan} {invocation : Invocation}

/-- The line feeds that an invocation is to write: those of its template's body
    and the one behind it. -/
def lineFeeds (catalog : Catalog) (invocation : Invocation) : Nat :=
  match catalog.get? invocation.check with
  | some template => template.body.count '\n' + 1
  | none => 0

/-- The block of the invocation has the lines of its template's body, each
    filled in on its own, and no other ones. -/
def KeepsLines (catalog : Catalog) (invocation : Invocation) : Prop :=
  ∃ template filled, catalog.get? invocation.check = some template ∧
    filled = Template.fill template.body invocation.args ∧
    block catalog invocation = filled ++ ['\n'] ∧
    filled.count '\n' = template.body.count '\n' ∧
    filled.splitOn '\n' =
      (template.body.splitOn '\n').map fun line => Template.fill line invocation.args

private theorem keepsLines_of_no_feed {template : Template}
    (hget : catalog.get? invocation.check = some template)
    (hargs : ∀ arg ∈ invocation.args, '\n' ∉ arg) : KeepsLines catalog invocation := by
  refine ⟨template, _, hget, rfl, ?_, ?_, ?_⟩
  · rw [block, hget]
  · exact Template.count_fill (by decide) rfl hargs template.body
  · exact Template.splitOn_fill (by decide) rfl hargs template.body

private theorem KeepsLines.count_block (hkeeps : KeepsLines catalog invocation) :
    (block catalog invocation).count '\n' = lineFeeds catalog invocation := by
  obtain ⟨template, filled, hget, -, hblock, hcount, -⟩ := hkeeps
  rw [hblock, lineFeeds, hget, List.count_append, hcount, List.count_singleton_self]

/-- The order in which the hosts are written makes no difference to the number
    of line feeds. -/
private theorem count_body (hkeeps : ∀ invocation ∈ plan.sortedHosts.flatMap Prod.snd,
      KeepsLines catalog invocation) :
    (body catalog plan).count '\n' =
      (plan.hosts.values.flatten.map (lineFeeds catalog)).sum :=
  calc (body catalog plan).count '\n'
      = ((plan.sortedHosts.flatMap Prod.snd).map fun invocation =>
          (block catalog invocation).count '\n').sum := by
        rw [body_eq_flatMap, List.count_flatMap]
        rfl
    _ = ((plan.sortedHosts.flatMap Prod.snd).map (lineFeeds catalog)).sum :=
        congrArg List.sum (List.map_congr_left fun invocation hmem =>
          (hkeeps invocation hmem).count_block)
    _ = (plan.hosts.values.flatten.map (lineFeeds catalog)).sum :=
        (plan.flatMap_sortedHosts_perm.map (lineFeeds catalog)).sum_nat

end Output

/-- What an accepted source gives to a template holds no line feed. -/
theorem Catalog.no_feed_of_accepted {catalog : Catalog} {source : Text} {plan : Plan}
    (haccept : catalog.resolve source = .ok plan) {host : Text} {invocations : List Invocation}
    (hhost : plan.host? host = some invocations) :
    ∀ invocation ∈ invocations, ∀ arg ∈ invocation.args, '\n' ∉ arg := by
  intro invocation hmem
  have hmeans := means_of_resolve_eq_ok haccept
  have hcomplete :=
    hmeans.complete_of_host? (causes_eq_nil_of_resolve_eq_ok haccept) hhost invocation hmem
  have hname := Declaration.isHostName_of_mem_hostNames (hmeans.host?_eq_some_iff.mp hhost).1
  exact hcomplete.no_feed hname.2

namespace Compilation

/-- Arguments neither add lines to an output nor take lines from it. Every block
    has the lines of its template, each filled in on its own, and behind the
    header there are the line feeds of the templates and one for each block. -/
theorem lines_of_templates {catalogSource source : Text} {compilation : Compilation}
    (haccept : ofSources catalogSource source = .ok compilation) :
    (∀ host invocations, compilation.plan.host? host = some invocations →
      ∀ invocation ∈ invocations, Output.KeepsLines compilation.catalog invocation) ∧
    ∀ options, ∃ printed,
      compile catalogSource source options =
        .ok (Header.render options.header options.generatedAt ++ printed) ∧
      printed.count '\n' =
        (compilation.plan.hosts.values.flatten.map
          (Output.lineFeeds compilation.catalog)).sum := by
  obtain ⟨-, hresolve⟩ := ofSources_eq_ok_iff.mp haccept
  have hkeeps : ∀ host invocations, compilation.plan.host? host = some invocations →
      ∀ invocation ∈ invocations, Output.KeepsLines compilation.catalog invocation := by
    intro host invocations hhost invocation hmem
    obtain ⟨template, hget⟩ :=
      Catalog.supplies_of_resolve_eq_ok hresolve host invocations hhost invocation hmem
    have hargs := Catalog.no_feed_of_accepted hresolve hhost invocation hmem
    exact Output.keepsLines_of_no_feed hget hargs
  refine ⟨hkeeps, fun options => ⟨_, compile_eq_ok haccept options, ?_⟩⟩
  apply Output.count_body
  intro invocation hmem
  obtain ⟨host, invocations, hhost, hgiven⟩ := Plan.exists_host?_of_mem_sortedHosts hmem
  exact hkeeps host invocations hhost invocation hgiven

/-- An argument that another argument is filled into, and a template that does
    not end with a line. -/
theorem lines_of_templates_cascading :
    ∃ compilation, ofSources "$a\n[$1]\n-$2 $3\n$b\n-$1".toList "h $a \"$3\" x, $b\n".toList =
        .ok compilation ∧
      Output.KeepsLines compilation.catalog ⟨['a'], [['h'], ['$', '3'], ['x']]⟩ ∧
      Output.KeepsLines compilation.catalog ⟨['b'], [['h']]⟩ ∧
      ∃ printed, compile "$a\n[$1]\n-$2 $3\n$b\n-$1".toList "h $a \"$3\" x, $b\n".toList {} =
          .ok (Header.render {} none ++ printed) ∧
        printed.count '\n' = 4 := by
  obtain ⟨compilation, haccept⟩ : ∃ compilation,
    ofSources "$a\n[$1]\n-$2 $3\n$b\n-$1".toList "h $a \"$3\" x, $b\n".toList =
      .ok compilation := ⟨_, rfl⟩
  obtain ⟨hkeeps, hprinted⟩ := lines_of_templates haccept
  obtain ⟨printed, hcompile, hcount⟩ := hprinted {}
  have hhost : compilation.plan.host? ['h'] =
      some [⟨['a'], [['h'], ['$', '3'], ['x']]⟩, ⟨['b'], [['h']]⟩] := by
    cases haccept
    decide
  have hsum : (compilation.plan.hosts.values.flatten.map
      (Output.lineFeeds compilation.catalog)).sum = 4 := by
    cases haccept
    decide
  have hgiven := hkeeps _ _ hhost
  exact ⟨compilation, haccept, hgiven _ (by simp), hgiven _ (by simp), printed, hcompile,
    hcount.trans hsum⟩

end Compilation

end CheckPlan
