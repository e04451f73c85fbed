import CheckPlan.Compilation
import CheckPlan.Proofs.Assignment.Mentioned
import CheckPlan.Proofs.Catalog.Arranged
import CheckPlan.Proofs.Output.Blocks

namespace CheckPlan

namespace Output

/-- A block depends on a body only. -/
private theorem block_eq (catalog : Catalog) (invocation : Invocation) :
    block catalog invocation =
      ((catalog.body? invocation.check).map fun body =>
        Template.fill body invocation.args ++ ['\n']).getD [] := by
  rw [block, Catalog.body?]
  cases catalog.get? invocation.check <;> rfl

private theorem body_congr {catalog other : Catalog} {plan : Plan}
    (hsame : ∀ invocation ∈ plan.sortedHosts.flatMap Prod.snd,
      other.body? invocation.check = catalog.body? invocation.check) :
    body other plan = body catalog plan := by
  rw [body_eq_flatMap, body_eq_flatMap]
  apply List.flatMap_congr
  intro invocation hmem
  rw [block_eq, block_eq, hsame invocation hmem]

end Output

namespace Catalog

/-- All checks of a plan are mentioned in its source. -/
private theorem check_mem_of_mem_sortedHosts {catalog : Catalog} {source : Text} {plan : Plan}
    (haccept : catalog.resolve source = .ok plan) :
    ∀ invocation ∈ plan.sortedHosts.flatMap Prod.snd,
      invocation.check ∈ source.mentionedChecks := by
  intro invocation hmem
  obtain ⟨host, invocations, hhost, hgiven⟩ := Plan.exists_host?_of_mem_sortedHosts hmem
  obtain ⟨-, rfl⟩ := (means_of_resolve_eq_ok haccept).host?_eq_some_iff.mp hhost
  exact Declaration.check_mem_mentionedChecks hgiven

end Catalog

namespace Compilation

/-- Two catalog sources have the same output with an assignment source. -/
def Alike (catalogSource otherSource assignmentSource : Text) : Prop :=
  ∀ options, ∃ output, compile catalogSource assignmentSource options = .ok output ∧
    compile otherSource assignmentSource options = .ok output

section Accepted

variable {catalogSource otherSource assignmentSource : Text} {catalog other : Catalog}
  {plan : Plan}

/-- Catalogs with the same bodies under the names that are mentioned have the
    same output. -/
theorem alike_of_body?_eq (hparse : Catalog.parse catalogSource = .ok catalog)
    (hother : Catalog.parse otherSource = .ok other)
    (haccept : catalog.resolve assignmentSource = .ok plan)
    (hsame : ∀ check ∈ assignmentSource.mentionedChecks,
      other.body? check = catalog.body? check) :
    Alike catalogSource otherSource assignmentSource := by
  intro options
  have hresolve : other.resolve assignmentSource = .ok plan := by
    rw [← haccept]
    apply Catalog.resolve_congr
    intro check hmem
    rw [Catalog.contains_eq_isSome_body?, Catalog.contains_eq_isSome_body?, hsame check hmem]
  have hbody : Output.body other plan = Output.body catalog plan := by
    apply Output.body_congr
    intro invocation hmem
    exact hsame _ (Catalog.check_mem_of_mem_sortedHosts haccept invocation hmem)
  have hcompiled : ofSources catalogSource assignmentSource = .ok ⟨catalog, plan⟩ :=
    ofSources_eq_ok_iff.mpr ⟨hparse, haccept⟩
  have hotherCompiled : ofSources otherSource assignmentSource = .ok ⟨other, plan⟩ :=
    ofSources_eq_ok_iff.mpr ⟨hother, hresolve⟩
  refine ⟨_, compile_eq_ok hcompiled options, ?_⟩
  rw [compile_eq_ok hotherCompiled, render, render, Output.render, Output.render, hbody]

/-- A block that is mentioned counts with its name and its body. Other blocks do
    not count, and need not be there. -/
private theorem alike_of_entries (hparse : Catalog.parse catalogSource = .ok catalog)
    (hother : Catalog.parse otherSource = .ok other)
    (haccept : catalog.resolve assignmentSource = .ok plan)
    (hkept : ∀ block ∈ Catalog.blocks catalogSource,
      block.name ∈ assignmentSource.mentionedChecks →
        block.entry ∈ (Catalog.blocks otherSource).map Block.entry) :
    Alike catalogSource otherSource assignmentSource := by
  refine alike_of_body?_eq hparse hother haccept fun check hmem => ?_
  have hnone := Catalog.causes_eq_nil_of_resolve_eq_ok haccept
  have hcontains := Catalog.contains_of_mem_mentionedChecks hnone hmem
  rw [Catalog.contains_eq_isSome_body?, Option.isSome_iff_exists] at hcontains
  obtain ⟨body, hbody⟩ := hcontains
  obtain ⟨block, hblock, hentry⟩ :=
    List.mem_map.mp ((Catalog.body?_eq_some_iff_of_parse hparse).mp hbody)
  have hname : block.name = check := congrArg Catalog.Entry.name hentry
  have hmentioned := hkept block hblock (hname ▸ hmem)
  rw [hentry] at hmentioned
  rw [hbody, (Catalog.body?_eq_some_iff_of_parse hother).mpr hmentioned]

end Accepted

/-- What counts of a catalog source, for all assignments. -/
structure CountsByBodies (catalogSource : Text) : Prop where
  /-- Another accepted source has the same output if it has the same bodies under
      the names that are mentioned. -/
  same_bodies {catalog other : Catalog} {otherSource assignmentSource : Text} {plan : Plan} :
    Catalog.parse catalogSource = .ok catalog → Catalog.parse otherSource = .ok other →
      catalog.resolve assignmentSource = .ok plan →
        (∀ check ∈ assignmentSource.mentionedChecks,
          other.body? check = catalog.body? check) →
          Alike catalogSource otherSource assignmentSource
  /-- The blocks can stand in another order and below another preamble. -/
  arranged {catalog : Catalog} {assignmentSource : Text} {plan : Plan} :
    Catalog.parse catalogSource = .ok catalog → catalog.resolve assignmentSource = .ok plan →
      ∀ preamble blocks, Catalog.Arranges preamble blocks catalogSource →
        Alike catalogSource (preamble ++ blocks.flatMap Block.text) assignmentSource
  /-- Blocks that are not mentioned can be added, left out and changed. -/
  unmentioned {catalog other : Catalog} {otherSource assignmentSource : Text} {plan : Plan} :
    Catalog.parse catalogSource = .ok catalog → Catalog.parse otherSource = .ok other →
      catalog.resolve assignmentSource = .ok plan →
        (∀ block ∈ Catalog.blocks catalogSource,
          block.name ∈ assignmentSource.mentionedChecks →
            block.entry ∈ (Catalog.blocks otherSource).map Block.entry) →
          Alike catalogSource otherSource assignmentSource
  /-- A source that is not accepted has problems, whatever the assignments are. -/
  rejected : (∀ catalog, Catalog.parse catalogSource ≠ .ok catalog) →
    ∃ problems, problems ≠ [] ∧ ∀ assignmentSource options,
      compile catalogSource assignmentSource options = .error (.catalog problems)

/-- Of a catalog source only the bodies count that assignments mention, and of one
    that is not accepted nothing but its problems. -/
theorem countsByBodies (catalogSource : Text) : CountsByBodies catalogSource where
  same_bodies := alike_of_body?_eq
  arranged hparse haccept preamble blocks harranges := by
    obtain ⟨other, hother, hsame⟩ := harranges.exists_parse hparse
    exact alike_of_body?_eq hparse hother haccept fun check _ => hsame check
  unmentioned := alike_of_entries
  rejected hrejected := by
    cases hparse : Catalog.parse catalogSource with
    | ok catalog => exact absurd hparse (hrejected catalog)
    | error problems =>
      refine ⟨problems, Catalog.ne_nil_of_parse_eq_error hparse, fun assignmentSource options => ?_⟩
      rw [compile, ofSources, hparse]
      rfl

/-- Blocks that change places below a line that belongs to neither, a block that
    is not mentioned and gives way to another one, and a block without a name. -/
theorem countsByBodies_exchanged :
    Alike "$a\nrun $1\n$b\nB\n".toList "#\n$b\nB\n$a\nrun $1\n".toList
      "@g $a\nh @g\n".toList ∧
    Alike "$a\nrun $1\n$b\nB\n".toList "$a\nrun $1\n$c\n".toList "@g $a\nh @g\n".toList ∧
    ∃ problems, problems ≠ [] ∧ ∀ assignmentSource options,
      compile "$\n".toList assignmentSource options = .error (.catalog problems) := by
  obtain ⟨catalog, hparse⟩ : ∃ catalog,
    Catalog.parse "$a\nrun $1\n$b\nB\n".toList = .ok catalog := ⟨_, rfl⟩
  obtain ⟨other, hother⟩ : ∃ other,
    Catalog.parse "$a\nrun $1\n$c\n".toList = .ok other := ⟨_, rfl⟩
  obtain ⟨plan, haccept⟩ : ∃ plan, catalog.resolve "@g $a\nh @g\n".toList = .ok plan := by
    cases hparse
    exact ⟨_, rfl⟩
  have hcounts := countsByBodies "$a\nrun $1\n$b\nB\n".toList
  refine ⟨?_, hcounts.unmentioned hparse hother haccept (by decide), ?_⟩
  · exact hcounts.arranged hparse haccept "#\n".toList
      (Catalog.blocks "$a\nrun $1\n$b\nB\n".toList).reverse
      ⟨List.reverse_perm _, by decide, by decide, by decide⟩
  · exact (countsByBodies "$\n".toList).rejected fun catalog => by rintro ⟨⟩

end Compilation

end CheckPlan
