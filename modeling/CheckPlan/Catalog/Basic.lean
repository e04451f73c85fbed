import CheckPlan.Template.Basic

namespace CheckPlan

/-- Check templates with distinct names, in the order in which they were
    registered. -/
structure Catalog where
  templates : List Template
  distinct : (templates.map Template.name).Nodup

namespace Catalog

/-- The catalog without templates. -/
def empty : Catalog :=
  ⟨[], List.nodup_nil⟩

instance : Inhabited Catalog :=
  ⟨empty⟩

/-- The template of a name. -/
def get? (catalog : Catalog) (name : Text) : Option Template :=
  catalog.templates.find? fun template => template.name = name

/-- Whether there is a template of a name. -/
def contains (catalog : Catalog) (name : Text) : Bool :=
  (catalog.get? name).isSome

theorem contains_eq_true_iff (catalog : Catalog) (name : Text) :
    catalog.contains name = true ↔ name ∈ catalog.templates.map Template.name := by
  simp [contains, get?, List.find?_isSome]

/-- A name that is not taken stays distinct at the end of the catalog. -/
theorem distinct_concat {catalog : Catalog} {template : Template}
    (hfree : ¬ catalog.contains template.name = true) :
    ((catalog.templates ++ [template]).map Template.name).Nodup := by
  rw [contains_eq_true_iff] at hfree
  rw [List.map_append, List.nodup_append]
  refine ⟨catalog.distinct, by simp, ?_⟩
  intro left hleft right hright heq
  rw [List.map_singleton, List.mem_singleton] at hright
  exact hfree (hright ▸ heq ▸ hleft)

/-- The catalog with a template added, or the template back when its name is
    taken. -/
def register (catalog : Catalog) (template : Template) : Except Template Catalog :=
  if htaken : catalog.contains template.name = true then
    .error template
  else
    .ok ⟨catalog.templates ++ [template], distinct_concat htaken⟩

/-- A template is turned away exactly when its name is taken, and it is the
    template itself that comes back. -/
theorem register_eq_error_iff {catalog : Catalog} {template rejected : Template} :
    catalog.register template = .error rejected ↔
      catalog.contains template.name = true ∧ rejected = template := by
  unfold register
  split
  · next htaken => simp [htaken, eq_comm]
  · next hfree => simp [hfree]

/-- Registration adds one name and leaves the templates of all others. -/
theorem get?_of_register_eq_ok {catalog grown : Catalog} {template : Template}
    (hregister : catalog.register template = .ok grown) (name : Text) :
    grown.get? name = if name = template.name then some template else catalog.get? name := by
  unfold register at hregister
  split at hregister
  · cases hregister
  · next hfree =>
    cases hregister
    have hnone : catalog.get? template.name = none := by
      simpa [contains, Option.isSome_iff_ne_none] using hfree
    unfold get? at hnone ⊢
    by_cases hname : name = template.name
    · rw [hname, if_pos rfl, List.find?_append, hnone]
      simp
    · have hother : ¬ template.name = name := fun h => hname h.symm
      rw [if_neg hname, List.find?_append]
      simp [hother]

/-- The names of the templates, sorted. -/
def names (catalog : Catalog) : List Text :=
  (catalog.templates.map Template.name).mergeSort Text.precedes

theorem mem_names_iff {catalog : Catalog} {name : Text} :
    name ∈ catalog.names ↔ catalog.contains name = true := by
  rw [names, List.mem_mergeSort, contains_eq_true_iff]

/-- The templates, sorted by name. -/
def sorted (catalog : Catalog) : List Template :=
  catalog.templates.mergeSort fun left right => Text.precedes left.name right.name

/-- The number of templates. -/
def size (catalog : Catalog) : Nat :=
  catalog.templates.length

/-- Whether there are no templates. -/
def isEmpty (catalog : Catalog) : Bool :=
  catalog.templates.isEmpty

end Catalog

end CheckPlan
