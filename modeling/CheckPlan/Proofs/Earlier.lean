import Mathlib.Data.List.Basic
import Mathlib.Data.List.Forall2

namespace CheckPlan

variable {α β : Type}

/-- The elements in order, each with all that come before it. The first list
    holds what comes before the whole. -/
def withEarlier (earlier : List α) : List α → List (List α × α)
  | [] => []
  | element :: rest => (earlier, element) :: withEarlier (earlier ++ [element]) rest

theorem withEarlier_append (earlier front back : List α) :
    withEarlier earlier (front ++ back) =
      withEarlier earlier front ++ withEarlier (earlier ++ front) back := by
  induction front generalizing earlier with
  | nil => simp [withEarlier]
  | cons element rest ih =>
    rw [List.cons_append, withEarlier, withEarlier, ih, List.cons_append, List.append_assoc,
      List.singleton_append]

theorem withEarlier_singleton (earlier : List α) (element : α) :
    withEarlier earlier [element] = [(earlier, element)] := rfl

theorem map_snd_withEarlier (earlier list : List α) :
    (withEarlier earlier list).map Prod.snd = list := by
  induction list generalizing earlier with
  | nil => rfl
  | cons element rest ih => rw [withEarlier, List.map_cons, ih]

theorem withEarlier_map (change : α → β) (earlier list : List α) :
    withEarlier (earlier.map change) (list.map change) =
      (withEarlier earlier list).map fun (before, element) =>
        (before.map change, change element) := by
  induction list generalizing earlier with
  | nil => rfl
  | cons element rest ih =>
    have hrest := ih (earlier ++ [element])
    rw [List.map_append, List.map_singleton] at hrest
    rw [List.map_cons, withEarlier, withEarlier, List.map_cons, hrest]

/-- Every element comes with those before it. -/
theorem exists_mem_withEarlier (earlier : List α) {list : List α} {element : α}
    (hmem : element ∈ list) : ∃ before, (before, element) ∈ withEarlier earlier list := by
  rw [← map_snd_withEarlier earlier list] at hmem
  obtain ⟨⟨before, found⟩, hfound, rfl⟩ := List.mem_map.mp hmem
  exact ⟨before, hfound⟩

/-- Where the earlier elements make no difference, they need not be looked at. -/
theorem flatMap_withEarlier {read : List α → α → List β} {readAlone : α → List β}
    {list : List α} (hread : ∀ element ∈ list, ∀ before, read before element = readAlone element)
    (earlier : List α) :
    ((withEarlier earlier list).flatMap fun (before, element) => read before element) =
      list.flatMap readAlone := by
  induction list generalizing earlier with
  | nil => rfl
  | cons element rest ih =>
    obtain ⟨helement, hrest⟩ := List.forall_mem_cons.mp hread
    rw [withEarlier, List.flatMap_cons, List.flatMap_cons, ih hrest, ← helement earlier]

theorem mem_withEarlier_iff {earlier list before : List α} {element : α} :
    (before, element) ∈ withEarlier earlier list ↔
      ∃ front back, list = front ++ element :: back ∧ before = earlier ++ front := by
  constructor
  · intro hmem
    induction list generalizing earlier with
    | nil => cases hmem
    | cons first rest ih =>
      rw [withEarlier, List.mem_cons, Prod.mk.injEq] at hmem
      rcases hmem with ⟨rfl, rfl⟩ | hmem
      · exact ⟨[], rest, rfl, (List.append_nil _).symm⟩
      · obtain ⟨front, back, rfl, rfl⟩ := ih hmem
        exact ⟨first :: front, back, rfl, by simp⟩
  · rintro ⟨front, back, rfl, rfl⟩
    rw [withEarlier_append, withEarlier]
    exact List.mem_append_right _ List.mem_cons_self

theorem mem_of_mem_withEarlier {earlier list before : List α} {element : α}
    (hmem : (before, element) ∈ withEarlier earlier list) : element ∈ list := by
  obtain ⟨front, back, rfl, -⟩ := mem_withEarlier_iff.mp hmem
  exact List.mem_append_right _ List.mem_cons_self

theorem subset_of_mem_withEarlier {list before : List α} {element : α}
    (hmem : (before, element) ∈ withEarlier [] list) : before ⊆ list := by
  obtain ⟨front, back, rfl, rfl⟩ := mem_withEarlier_iff.mp hmem
  exact fun other hother => List.mem_append_left _ hother

/-- Reading every element commutes with pairing it with the earlier ones. -/
theorem withEarlier_filterMap (read : α → Option β) (earlier list : List α) :
    withEarlier (earlier.filterMap read) (list.filterMap read) =
      (withEarlier earlier list).filterMap fun (before, element) =>
        (read element).map fun result => (before.filterMap read, result) := by
  induction list generalizing earlier with
  | nil => rfl
  | cons element rest ih =>
    have hrest := ih (earlier ++ [element])
    rw [List.filterMap_append] at hrest
    cases hread : read element with
    | none =>
      simp only [hread, List.filterMap_cons, List.filterMap_nil, List.append_nil] at hrest
      simp [withEarlier, hread, hrest]
    | some result =>
      simp only [hread, List.filterMap_cons, List.filterMap_nil] at hrest
      simp [withEarlier, hread, hrest]

/-- Elements that are kept come with those that are kept of the earlier ones. -/
theorem withEarlier_filter (keep : α → Bool) (earlier list : List α) :
    withEarlier (earlier.filter keep) (list.filter keep) =
      ((withEarlier earlier list).filter fun (_, element) => keep element).map
        fun (before, element) => (before.filter keep, element) := by
  induction list generalizing earlier with
  | nil => rfl
  | cons element rest ih =>
    have hrest := ih (earlier ++ [element])
    rw [List.filter_append] at hrest
    cases hkeep : keep element with
    | false =>
      rw [List.filter_cons_of_neg (by simp [hkeep]), List.filter_nil, List.append_nil] at hrest
      rw [List.filter_cons_of_neg (by simp [hkeep]), withEarlier,
        List.filter_cons_of_neg (by simp [hkeep]), hrest]
    | true =>
      rw [List.filter_cons_of_pos hkeep, List.filter_nil] at hrest
      rw [List.filter_cons_of_pos hkeep, withEarlier, withEarlier,
        List.filter_cons_of_pos (by simp [hkeep]), List.map_cons, hrest]

theorem mem_withEarlier_filter_iff {keep : α → Bool} {list before : List α} {element : α} :
    (before, element) ∈ withEarlier [] (list.filter keep) ↔
      keep element = true ∧
        ∃ all, (all, element) ∈ withEarlier [] list ∧ before = all.filter keep := by
  have hfilter := withEarlier_filter keep [] list
  rw [List.filter_nil] at hfilter
  rw [hfilter, List.mem_map]
  constructor
  · rintro ⟨⟨all, found⟩, hfound, heq⟩
    cases heq
    obtain ⟨hmem, hkeep⟩ := List.mem_filter.mp hfound
    exact ⟨hkeep, all, hmem, rfl⟩
  · rintro ⟨hkeep, all, hmem, rfl⟩
    exact ⟨(all, element), List.mem_filter.mpr ⟨hmem, hkeep⟩, rfl⟩

/-- Every occurrence of an element but the first has one before it. -/
theorem countP_withEarlier [BEq α] [LawfulBEq α] [DecidableEq α] (element : α)
    (earlier list : List α) :
    (withEarlier earlier list).countP
        (fun (before, other) => other = element ∧ element ∈ before) =
      if element ∈ earlier then list.count element else list.count element - 1 := by
  induction list generalizing earlier with
  | nil => simp [withEarlier]
  | cons first rest ih =>
    rw [withEarlier, List.countP_cons, ih]
    by_cases hfirst : first = element
    · subst hfirst
      rw [if_pos (List.mem_append_right _ List.mem_cons_self), List.count_cons_self]
      by_cases hmem : first ∈ earlier <;> simp [hmem]
    · have hne : element ≠ first := fun heq => hfirst heq.symm
      simp [hfirst, hne]

/-- Lists with the same readings have them at corresponding places. -/
theorem forall₂_of_map_eq {read : α → β} {list other : List α}
    (hread : list.map read = other.map read) :
    List.Forall₂ (fun element counterpart => read element = read counterpart ∧
      (element, counterpart) ∈ list.zip other) list other := by
  rw [← List.forall₂_eq_eq_eq, List.forall₂_map_left_iff, List.forall₂_map_right_iff] at hread
  obtain ⟨hlength, hzip⟩ := List.forall₂_iff_zip.mp hread
  exact List.forall₂_iff_zip.mpr ⟨hlength, fun hmem => ⟨hzip hmem, hmem⟩⟩

/-- Elements that are related one by one come with earlier ones that are. -/
theorem forall₂_withEarlier {related : α → β → Prop} {earlier list : List α}
    {otherEarlier other : List β} (hearlier : List.Forall₂ related earlier otherEarlier)
    (hlist : List.Forall₂ related list other) :
    List.Forall₂ (fun first second => List.Forall₂ related first.1 second.1 ∧
      related first.2 second.2) (withEarlier earlier list) (withEarlier otherEarlier other) := by
  induction hlist generalizing earlier otherEarlier with
  | nil => exact .nil
  | cons hfirst hrest ih =>
    refine .cons ⟨hearlier, hfirst⟩ (ih ?_)
    exact List.rel_append hearlier (.cons hfirst .nil)

/-- Elements that stand for nothing can be left out. -/
theorem flatMap_filter {keep : α → Bool} {read : α → List β}
    (hdrop : ∀ element, keep element = false → read element = []) (list : List α) :
    (list.filter keep).flatMap read = list.flatMap read := by
  induction list with
  | nil => rfl
  | cons element rest ih =>
    cases helement : keep element with
    | false =>
      rw [List.filter_cons_of_neg (by simp [helement]), List.flatMap_cons, ih,
        hdrop element helement, List.nil_append]
    | true => rw [List.filter_cons_of_pos helement, List.flatMap_cons, List.flatMap_cons, ih]

/-- The same when elements are read with the earlier ones, if no element looks
    at those that are left out. -/
theorem flatMap_withEarlier_filter {keep : α → Bool} {read : List α → α → List β}
    (hkeep : ∀ before element, read (before.filter keep) element = read before element)
    (hdrop : ∀ before element, keep element = false → read before element = [])
    (list : List α) :
    ((withEarlier [] (list.filter keep)).flatMap fun (before, element) => read before element) =
      (withEarlier [] list).flatMap fun (before, element) => read before element := by
  have hfilter := withEarlier_filter keep [] list
  rw [List.filter_nil] at hfilter
  rw [hfilter, List.flatMap_map]
  simp only [hkeep]
  apply flatMap_filter
  rintro ⟨before, element⟩
  exact hdrop before element

theorem eraseDups_prefix_append [BEq α] [LawfulBEq α] (front back : List α) :
    front.eraseDups <+: (front ++ back).eraseDups := by
  rw [List.eraseDups_append]
  exact List.prefix_append _ _

theorem eraseDups_concat [BEq α] [LawfulBEq α] (list : List α) (element : α) :
    (list ++ [element]).eraseDups =
      if element ∈ list.eraseDups then list.eraseDups else list.eraseDups ++ [element] := by
  rw [List.eraseDups_append]
  by_cases hmem : element ∈ list
  · simp [hmem, List.removeAll]
  · simp [hmem, List.removeAll, List.eraseDups_cons]

end CheckPlan
