import CheckPlan.Plan
import CheckPlan.Proofs.Text.Order
import Mathlib.Data.List.Nodup

namespace CheckPlan

namespace Table

variable {α : Type}

theorem sorted_perm (table : Table α) : table.sorted.Perm table.entries :=
  List.mergeSort_perm _ _

theorem pairwise_sorted (table : Table α) :
    table.sorted.Pairwise fun left right => Text.bytes left.1 < Text.bytes right.1 :=
  Text.pairwise_mergeSort table.distinct

theorem increasing_sorted (table : Table α) : Text.Increasing (table.sorted.map Prod.fst) :=
  List.pairwise_map.mpr table.pairwise_sorted

/-- The order in which names came up is lost. -/
theorem sorted_eq_of_get?_eq {left right : Table α}
    (hget : ∀ name, left.get? name = right.get? name) : left.sorted = right.sorted := by
  have hentries : left.entries.Perm right.entries := by
    rw [List.perm_ext_iff_of_nodup (List.Nodup.of_map Prod.fst left.distinct)
      (List.Nodup.of_map Prod.fst right.distinct)]
    intro entry
    rw [mem_entries_iff, mem_entries_iff, hget]
  have hperm : left.sorted.Perm right.sorted :=
    (left.sorted_perm.trans hentries).trans right.sorted_perm.symm
  refine hperm.eq_of_pairwise ?_ left.pairwise_sorted right.pairwise_sorted
  intro first second _ _ hlt hgt
  exact absurd hgt (List.lt_asymm hlt)

end Table

namespace Plan

theorem mem_sortedHosts_iff_host? {plan : Plan} {entry : Text × List Invocation} :
    entry ∈ plan.sortedHosts ↔ plan.host? entry.1 = some entry.2 := by
  rw [sortedHosts, plan.hosts.sorted_perm.mem_iff, Table.mem_entries_iff]
  rfl

theorem exists_host?_of_mem_sortedHosts {plan : Plan} {invocation : Invocation}
    (hmem : invocation ∈ plan.sortedHosts.flatMap Prod.snd) :
    ∃ host invocations, plan.host? host = some invocations ∧ invocation ∈ invocations := by
  obtain ⟨entry, hentry, hgiven⟩ := List.mem_flatMap.mp hmem
  exact ⟨entry.1, entry.2, mem_sortedHosts_iff_host?.mp hentry, hgiven⟩

/-- All invocations are there when the hosts are sorted. -/
theorem flatMap_sortedHosts_perm (plan : Plan) :
    (plan.sortedHosts.flatMap Prod.snd).Perm plan.hosts.values.flatten := by
  rw [Table.values, ← List.flatMap_def]
  exact plan.hosts.sorted_perm.flatMap_right Prod.snd

end Plan

end CheckPlan
