import CheckPlan.Plan
import CheckPlan.Proofs.Earlier

namespace CheckPlan

namespace Reference

/-- Each check once, in the order in which the checks first come up, and with
    the arguments of the last reference to it. -/
def settle (references : List Reference) : List Reference :=
  (references.map check).eraseDups.filterMap fun name =>
    references.reverse.find? fun reference => reference.check = name

theorem mem_of_mem_settle {references : List Reference} {reference : Reference}
    (hmem : reference ∈ settle references) : reference ∈ references := by
  obtain ⟨name, -, hfind⟩ := List.mem_filterMap.mp hmem
  exact List.mem_reverse.mp (List.mem_of_find?_eq_some hfind)

/-- A check that comes up has a last reference to it. -/
theorem exists_find?_reverse {references : List Reference} {name : Text}
    (hmem : name ∈ references.map check) :
    ∃ reference, references.reverse.find? (fun reference => reference.check = name) =
      some reference ∧ reference.check = name := by
  obtain ⟨reference, hreference, hname⟩ := List.mem_map.mp hmem
  cases hfind : references.reverse.find? fun reference => reference.check = name with
  | none =>
    rw [List.find?_eq_none] at hfind
    exact absurd hname (by simpa using hfind reference (List.mem_reverse.mpr hreference))
  | some found =>
    exact ⟨found, rfl, by simpa using List.find?_some hfind⟩

theorem map_check_settle (references : List Reference) :
    (settle references).map check = (references.map check).eraseDups := by
  rw [settle, List.map_filterMap]
  calc (references.map check).eraseDups.filterMap (fun name =>
        (references.reverse.find? fun reference => reference.check = name).map check)
      = (references.map check).eraseDups.filterMap some := by
        apply List.filterMap_congr
        intro name hmem
        obtain ⟨reference, hfind, hname⟩ := exists_find?_reverse (List.mem_eraseDups.mp hmem)
        rw [hfind, Option.map_some, hname]
    _ = (references.map check).eraseDups := List.filterMap_some

theorem settle_ne_nil {references : List Reference} (hne : references ≠ []) :
    settle references ≠ [] := by
  intro hnil
  obtain ⟨reference, rest, rfl⟩ := List.exists_cons_of_ne_nil hne
  have hchecks := map_check_settle (reference :: rest)
  rw [hnil, List.map_cons, List.eraseDups_cons] at hchecks
  cases hchecks

/-- One more reference changes the arguments of its check where the check
    stands, or adds the check at the end when it is new. -/
private theorem settle_concat (references : List Reference) (reference : Reference) :
    settle (references ++ [reference]) =
      if reference.check ∈ references.map check then
        (settle references).map fun old => if old.check = reference.check then reference else old
      else settle references ++ [reference] := by
  have hlast (name : Text) :
      (references ++ [reference]).reverse.find? (fun other => other.check = name) =
        if reference.check = name then some reference
        else references.reverse.find? fun other => other.check = name := by
    rw [List.reverse_append, List.reverse_singleton, List.singleton_append, List.find?_cons]
    by_cases hname : reference.check = name <;> simp [hname]
  rw [settle, List.map_append, List.map_singleton, eraseDups_concat]
  simp only [hlast, List.mem_eraseDups]
  by_cases hmem : reference.check ∈ references.map check
  · rw [if_pos hmem, if_pos hmem, settle, List.map_filterMap]
    apply List.filterMap_congr
    intro name hname
    obtain ⟨old, hfind, hold⟩ := exists_find?_reverse (List.mem_eraseDups.mp hname)
    rw [hfind, Option.map_some, hold]
    by_cases heq : reference.check = name
    · rw [if_pos heq, if_pos heq.symm]
    · rw [if_neg heq, if_neg fun h => heq h.symm]
  · rw [if_neg hmem, if_neg hmem, List.filterMap_append, settle]
    congr 1
    · apply List.filterMap_congr
      intro name hname
      have hne : ¬ reference.check = name := by
        rintro rfl
        exact hmem (List.mem_eraseDups.mp hname)
      rw [if_neg hne]
    · simp

end Reference

namespace Group

theorem map_check_references (group : Group) :
    group.references.map Reference.check = group.names := by
  rw [references, List.map_map]
  rfl

/-- Groups that stand for the same references are equal. -/
theorem eq_of_references_eq {group other : Group} (heq : group.references = other.references) :
    group = other := by
  apply Table.eq_of_entries_eq
  refine (List.map_inj_right ?_).mp heq
  rintro ⟨check, args⟩ ⟨otherCheck, otherArgs⟩ hreference
  cases hreference
  rfl

private theorem references_add (group : Group) (reference : Reference) :
    (group.add reference).references =
      if reference.check ∈ group.names then
        group.references.map fun old => if old.check = reference.check then reference else old
      else group.references ++ [reference] := by
  rw [references, add, Table.entries_insert]
  by_cases hmem : reference.check ∈ group.names
  · rw [if_pos hmem, if_pos hmem, references, List.map_map, List.map_map, List.map_inj_left]
    intro entry _
    by_cases hname : entry.1 = reference.check <;> simp [hname]
  · rw [if_neg hmem, if_neg hmem, List.map_append]
    rfl

/-- Taking in references one by one settles them behind those that are there. -/
theorem references_foldl_add {group : Group} {earlier : List Reference}
    (hgroup : group.references = Reference.settle earlier) (later : List Reference) :
    (later.foldl add group).references = Reference.settle (earlier ++ later) := by
  induction later generalizing group earlier with
  | nil => rw [List.foldl_nil, hgroup, List.append_nil]
  | cons reference rest ih =>
    have hadd : (group.add reference).references = Reference.settle (earlier ++ [reference]) := by
      have hnames : group.names = (earlier.map Reference.check).eraseDups := by
        rw [← map_check_references, hgroup, Reference.map_check_settle]
      rw [references_add, Reference.settle_concat, hnames, hgroup]
      simp only [List.mem_eraseDups]
    rw [List.foldl_cons, ih hadd, List.append_assoc, List.singleton_append]

end Group

end CheckPlan
