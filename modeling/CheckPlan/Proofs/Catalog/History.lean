import CheckPlan.Proofs.Catalog.Registered
import CheckPlan.Proofs.Earlier
import CheckPlan.Proofs.Text.Order
import Mathlib.Data.List.Dedup

namespace CheckPlan

namespace Catalog

/-- The catalog after registrations in turn, and what came back from each: the
    template, if it was turned away. -/
def registerEach (catalog : Catalog) : List Template → Catalog × List (Option Template)
  | [] => (catalog, [])
  | template :: rest =>
    match catalog.register template with
    | .ok grown =>
      let (final, returned) := registerEach grown rest
      (final, none :: returned)
    | .error rejected =>
      let (final, returned) := registerEach catalog rest
      (final, some rejected :: returned)

/-- A registration goes on with the catalog that it made, or with the same catalog
    and the template given back. -/
theorem exists_registerEach_cons (catalog : Catalog) (template : Template) :
    ∃ next answer,
      (catalog.register template = .ok next ∧ answer = none ∨
        catalog.register template = .error template ∧ next = catalog ∧ answer = some template) ∧
      ∀ rest, catalog.registerEach (template :: rest) =
        ((next.registerEach rest).1, answer :: (next.registerEach rest).2) := by
  cases hregister : catalog.register template with
  | ok grown => exact ⟨grown, none, .inl ⟨rfl, rfl⟩, fun rest => by rw [registerEach, hregister]⟩
  | error rejected =>
    obtain ⟨-, rfl⟩ := register_eq_error_iff.mp hregister
    exact ⟨catalog, some rejected, .inr ⟨rfl, rfl, rfl⟩,
      fun rest => by rw [registerEach, hregister]⟩

variable {catalog grown : Catalog} {history : List Template} {template rejected : Template}

/-- Under every name the catalog has the first template of that name in a
    history. -/
def FindsFirst (catalog : Catalog) (history : List Template) : Prop :=
  ∀ name, catalog.get? name = history.find? fun template => template.name = name

namespace FindsFirst

theorem contains_iff (hfinds : catalog.FindsFirst history) (name : Text) :
    catalog.contains name = true ↔ name ∈ history.map Template.name := by
  rw [contains, hfinds, List.find?_isSome]
  simp

/-- A template that is taken in is the first of its name. -/
theorem of_register_eq_ok (hfinds : catalog.FindsFirst history)
    (hregister : catalog.register template = .ok grown) :
    grown.FindsFirst (history ++ [template]) := by
  intro name
  rw [get?_of_register_eq_ok hregister, List.find?_append, ← hfinds, List.find?_singleton]
  by_cases hname : name = template.name
  · have hnone : catalog.get? name = none := by
      obtain ⟨hfree, -⟩ := register_eq_ok_iff.mp hregister
      rw [← contains_eq_true_iff, ← hname, contains, Option.isSome_iff_ne_none, not_not] at hfree
      exact hfree
    rw [if_pos hname, hnone, Option.none_or, if_pos (by simp [hname])]
  · have hne : ¬ template.name = name := fun heq => hname heq.symm
    rw [if_neg hname, if_neg (by simp [hne]), Option.or_none]

/-- A template that is turned away is not the first of its name. -/
theorem of_register_eq_error (hfinds : catalog.FindsFirst history)
    (hregister : catalog.register template = .error rejected) :
    catalog.FindsFirst (history ++ [template]) := by
  intro name
  rw [List.find?_append, ← hfinds, List.find?_singleton]
  by_cases hname : template.name = name
  · obtain ⟨htaken, -⟩ := register_eq_error_iff.mp hregister
    rw [contains, hname] at htaken
    rw [Option.or_of_isSome htaken]
  · rw [if_neg (by simp [hname]), Option.or_none]

private theorem registerEach (hfinds : catalog.FindsFirst history) (templates : List Template) :
    (catalog.registerEach templates).1.FindsFirst (history ++ templates) := by
  induction templates generalizing catalog history with
  | nil => rwa [List.append_nil]
  | cons template rest ih =>
    obtain ⟨next, answer, hstep, hcons⟩ := exists_registerEach_cons catalog template
    rw [hcons, List.append_cons]
    rcases hstep with ⟨hregister, -⟩ | ⟨hregister, rfl, -⟩
    · exact ih (hfinds.of_register_eq_ok hregister)
    · exact ih (hfinds.of_register_eq_error hregister)

/-- What comes back is each template that has another one of its name above it. -/
theorem snd_registerEach (hfinds : catalog.FindsFirst history) (templates : List Template) :
    (catalog.registerEach templates).2 =
      (withEarlier history templates).map fun (above, template) =>
        if template.name ∈ above.map Template.name then some template else none := by
  induction templates generalizing catalog history with
  | nil => rfl
  | cons template rest ih =>
    have hcontains := hfinds.contains_iff template.name
    obtain ⟨next, answer, hstep, hcons⟩ := exists_registerEach_cons catalog template
    rw [hcons, withEarlier, List.map_cons]
    rcases hstep with ⟨hregister, rfl⟩ | ⟨hregister, rfl, rfl⟩
    · obtain ⟨hfree, -⟩ := register_eq_ok_iff.mp hregister
      rw [← contains_eq_true_iff, hcontains] at hfree
      simp only [ih (hfinds.of_register_eq_ok hregister), if_neg hfree]
    · obtain ⟨htaken, -⟩ := register_eq_error_iff.mp hregister
      rw [hcontains] at htaken
      simp only [ih (hfinds.of_register_eq_error hregister), if_pos htaken]

/-- There are as many templates as different names in the history. -/
private theorem size_eq (hfinds : catalog.FindsFirst history) :
    catalog.size = (history.map Template.name).dedup.length := by
  have hperm : (catalog.templates.map Template.name).Perm (history.map Template.name).dedup := by
    rw [List.perm_ext_iff_of_nodup catalog.distinct (List.nodup_dedup _)]
    intro name
    rw [← contains_eq_true_iff, hfinds.contains_iff, List.mem_dedup]
  rw [size, ← hperm.length_eq, List.length_map]

end FindsFirst

theorem findsFirst_empty : empty.FindsFirst [] :=
  fun _ => rfl

theorem findsFirst_registerEach (history : List Template) :
    (empty.registerEach history).1.FindsFirst history :=
  findsFirst_empty.registerEach history

private theorem increasing_names (catalog : Catalog) : Text.Increasing catalog.names := by
  have hdistinct := catalog.distinct
  rw [← List.map_id (catalog.templates.map Template.name)] at hdistinct
  exact Text.pairwise_mergeSort hdistinct

/-- A registration that gave its template back could as well not have been made:
    without it the catalog and all other answers are the same. -/
theorem registerEach_eraseIdx {templates : List Template} {index : Nat}
    (hreturned : (catalog.registerEach templates).2[index]? = some (some rejected)) :
    templates[index]? = some rejected ∧
      catalog.registerEach (templates.eraseIdx index) =
        ((catalog.registerEach templates).1, (catalog.registerEach templates).2.eraseIdx index) := by
  induction templates generalizing catalog index with
  | nil => cases hreturned
  | cons template rest ih =>
    obtain ⟨next, answer, hstep, hcons⟩ := exists_registerEach_cons catalog template
    rw [hcons] at hreturned ⊢
    cases index with
    | zero =>
      rw [List.getElem?_cons_zero, Option.some.injEq] at hreturned
      rcases hstep with ⟨-, rfl⟩ | ⟨-, rfl, rfl⟩
      · cases hreturned
      · cases hreturned
        exact ⟨rfl, rfl⟩
    | succ index =>
      obtain ⟨hget, hrest⟩ := ih hreturned
      rw [List.eraseIdx_cons_succ, hcons, hrest]
      exact ⟨hget, rfl⟩

/-- Blocks are registered as a history: that of the templates whose blocks have
    a name. -/
private theorem fst_registerAll_eq (catalog : Catalog) (blocks : List Block) :
    (registerAll catalog blocks).1 =
      (catalog.registerEach
        ((blocks.filter fun block => block.name ≠ []).map Block.template)).1 := by
  induction blocks generalizing catalog with
  | nil => rfl
  | cons block rest ih =>
    by_cases hname : block.name = []
    · rw [List.filter_cons_of_neg (by simp [hname]), ← ih, registerAll, Block.register,
        if_pos hname]
    · rw [List.filter_cons_of_pos (by simp [hname]), List.map_cons, registerAll, Block.register,
        if_neg hname]
      obtain ⟨next, answer, hstep, hcons⟩ := exists_registerEach_cons catalog block.template
      rw [hcons, ← ih]
      rcases hstep with ⟨hregister, -⟩ | ⟨hregister, rfl, -⟩
      · rw [hregister]
      · rw [hregister]

/-- The catalog of some blocks has under every name the template of the first
    block of that name. -/
theorem findsFirst_registerAll (blocks : List Block) :
    (registerAll empty blocks).1.FindsFirst
      ((blocks.filter fun block => block.name ≠ []).map Block.template) := by
  rw [fst_registerAll_eq]
  exact findsFirst_registerEach _

/-- A catalog and what came back, as a history of registrations settles them.
    Under a name the catalog has the first template of that name. Every other
    template comes back, and its registration could be left out of the history,
    whatever was registered later. -/
structure KeepsFirst (history : List Template) (catalog : Catalog)
    (returned : List (Option Template)) : Prop where
  finds_first : catalog.FindsFirst history
  under_own_name : ∀ name template,
    catalog.get? name = some template ↔ template ∈ catalog.templates ∧ template.name = name
  contains_eq : ∀ name, catalog.contains name = (catalog.get? name).isSome
  contains_iff : ∀ name, catalog.contains name = true ↔ name ∈ history.map Template.name
  mem_names : ∀ name, name ∈ catalog.names ↔ name ∈ history.map Template.name
  increasing : Text.Increasing catalog.names
  size_eq : catalog.size = (history.map Template.name).dedup.length
  isEmpty_iff : catalog.isEmpty = true ↔ catalog.size = 0
  returned_eq : returned = (withEarlier [] history).map fun (above, template) =>
    if template.name ∈ above.map Template.name then some template else none
  without : ∀ index rejected, returned[index]? = some (some rejected) →
    history[index]? = some rejected ∧
      empty.registerEach (history.eraseIdx index) = (catalog, returned.eraseIdx index)

/-- Every history of registrations, from the empty catalog on, keeps the first
    template of each name. -/
theorem keepsFirst (history : List Template) :
    KeepsFirst history (empty.registerEach history).1 (empty.registerEach history).2 where
  finds_first := findsFirst_registerEach history
  under_own_name _ _ := get?_eq_some_iff
  contains_eq _ := rfl
  contains_iff := (findsFirst_registerEach history).contains_iff
  mem_names name := mem_names_iff.trans ((findsFirst_registerEach history).contains_iff name)
  increasing := increasing_names _
  size_eq := (findsFirst_registerEach history).size_eq
  isEmpty_iff := List.isEmpty_iff_length_eq_zero
  returned_eq := findsFirst_empty.snd_registerEach history
  without _ _ hreturned := registerEach_eraseIdx hreturned

example : (empty.registerEach [⟨['b'], ['x'], 1⟩, ⟨['a'], [], 2⟩, ⟨['b'], ['y'], 3⟩]).2 =
    [none, none, some ⟨['b'], ['y'], 3⟩] := by decide

end Catalog

end CheckPlan
