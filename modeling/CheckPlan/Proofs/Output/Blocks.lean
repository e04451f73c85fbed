import CheckPlan.Output.Body
import CheckPlan.Proofs.Assignment.LargerCatalog
import CheckPlan.Proofs.Plan.WellFormed
import Mathlib.Data.List.Forall2

namespace CheckPlan

namespace Catalog

/-- A catalog that has every template of another one, as it is there. -/
def Extends (larger catalog : Catalog) : Prop :=
  ∀ name template, catalog.get? name = some template → larger.get? name = some template

namespace Extends

variable {largest larger catalog : Catalog}

theorem refl (catalog : Catalog) : catalog.Extends catalog :=
  fun _ _ hget => hget

theorem trans (hlargest : largest.Extends larger) (hlarger : larger.Extends catalog) :
    largest.Extends catalog :=
  fun name template hget => hlargest name template (hlarger name template hget)

theorem covers (hextends : larger.Extends catalog) : larger.Covers catalog := by
  intro name hcontains
  obtain ⟨template, hget⟩ := Option.isSome_iff_exists.mp hcontains
  exact Option.isSome_iff_exists.mpr ⟨template, hextends name template hget⟩

end Extends

/-- A template that is taken in leaves those that are there alone. -/
theorem extends_of_register_eq_ok {catalog grown : Catalog} {added : Template}
    (hregister : catalog.register added = .ok grown) : grown.Extends catalog := by
  intro name template hget
  rw [get?_of_register_eq_ok hregister]
  by_cases hname : name = added.name
  · have hfree : ¬ catalog.contains added.name = true := fun htaken => by
      rw [register, dif_pos htaken] at hregister
      cases hregister
    rw [hname] at hget
    exact absurd (Option.isSome_of_eq_some hget) hfree
  · rw [if_neg hname, hget]

/-- The catalog has a template for every invocation of the plan. -/
def Supplies (catalog : Catalog) (plan : Plan) : Prop :=
  ∀ host invocations, plan.host? host = some invocations →
    ∀ invocation ∈ invocations, ∃ template, catalog.get? invocation.check = some template

theorem supplies_of_resolve_eq_ok {catalog : Catalog} {source : Text} {plan : Plan}
    (haccept : catalog.resolve source = .ok plan) : catalog.Supplies plan := by
  have hmeans := means_of_resolve_eq_ok haccept
  have hnone := causes_eq_nil_of_resolve_eq_ok haccept
  intro host invocations hhost invocation hmem
  have hcomplete := hmeans.complete_of_host? hnone hhost invocation hmem
  exact Option.isSome_iff_exists.mp hcomplete.contains

theorem Supplies.of_mem_sortedHosts {catalog : Catalog} {plan : Plan}
    (hsupplies : catalog.Supplies plan) {invocation : Invocation}
    (hmem : invocation ∈ plan.sortedHosts.flatMap Prod.snd) :
    ∃ template, catalog.get? invocation.check = some template := by
  obtain ⟨host, invocations, hhost, hgiven⟩ := Plan.exists_host?_of_mem_sortedHosts hmem
  exact hsupplies host invocations hhost invocation hgiven

end Catalog

namespace Output

variable {catalog : Catalog} {plan : Plan}

/-- The block is the filled in template of the invocation, with a line feed
    behind it. -/
def Prints (catalog : Catalog) (invocation : Invocation) (block : Text) : Prop :=
  ∃ template, catalog.get? invocation.check = some template ∧
    block = Template.fill template.body invocation.args ++ ['\n']

private theorem prints_block {invocation : Invocation} {template : Template}
    (hget : catalog.get? invocation.check = some template) :
    Prints catalog invocation (block catalog invocation) :=
  ⟨template, hget, by rw [block, hget]⟩

theorem body_eq_flatMap (catalog : Catalog) (plan : Plan) :
    body catalog plan = (plan.sortedHosts.flatMap Prod.snd).flatMap (block catalog) := by
  rw [body, List.flatMap_assoc]

/-- No invocation is left out when the catalog has a template for each. -/
theorem exists_blocks (hsupplies : catalog.Supplies plan) :
    ∃ blocks, List.Forall₂ (Prints catalog) (plan.sortedHosts.flatMap Prod.snd) blocks ∧
      blocks.length = plan.invocationCount ∧ body catalog plan = blocks.flatten := by
  refine ⟨(plan.sortedHosts.flatMap Prod.snd).map (block catalog), ?_, ?_, ?_⟩
  · rw [List.forall₂_map_right_iff, List.forall₂_same]
    intro invocation hmem
    obtain ⟨template, hget⟩ := hsupplies.of_mem_sortedHosts hmem
    exact prints_block hget
  · rw [List.length_map, Plan.invocationCount, plan.flatMap_sortedHosts_perm.length_eq]
  · rw [body_eq_flatMap, List.flatMap_def]

/-- More templates do not change the output. -/
theorem body_of_extends {larger : Catalog} (hextends : larger.Extends catalog)
    (hsupplies : catalog.Supplies plan) : body larger plan = body catalog plan := by
  rw [body_eq_flatMap, body_eq_flatMap]
  apply List.flatMap_congr
  intro invocation hmem
  obtain ⟨template, hget⟩ := hsupplies.of_mem_sortedHosts hmem
  rw [block, block, hget, hextends _ _ hget]

end Output

end CheckPlan
