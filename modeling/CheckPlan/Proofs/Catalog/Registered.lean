import CheckPlan.Catalog.Source
import Mathlib.Data.List.Nodup

namespace CheckPlan

namespace Catalog

theorem eq_of_templates_eq {left right : Catalog} (htemplates : left.templates = right.templates) :
    left = right := by
  cases left
  cases right
  cases htemplates
  rfl

theorem register_eq_ok_iff {catalog grown : Catalog} {template : Template} :
    catalog.register template = .ok grown ↔
      template.name ∉ catalog.templates.map Template.name ∧
        grown.templates = catalog.templates ++ [template] := by
  rw [← contains_eq_true_iff]
  unfold register
  split
  · next htaken => simp [htaken]
  · next hfree =>
    rw [Except.ok.injEq]
    constructor
    · rintro rfl
      exact ⟨hfree, rfl⟩
    · rintro ⟨-, htemplates⟩
      exact eq_of_templates_eq htemplates.symm

theorem get?_eq_some_iff {catalog : Catalog} {name : Text} {template : Template} :
    catalog.get? name = some template ↔
      template ∈ catalog.templates ∧ template.name = name := by
  constructor
  · intro hget
    exact ⟨List.mem_of_find?_eq_some hget, by simpa using List.find?_some hget⟩
  · rintro ⟨hmem, rfl⟩
    have hcontains := (contains_eq_true_iff catalog template.name).mpr (List.mem_map_of_mem hmem)
    obtain ⟨found, hfound⟩ := Option.isSome_iff_exists.mp hcontains
    have hname : found.name = template.name := by simpa using List.find?_some hfound
    rw [hfound, List.inj_on_of_nodup_map catalog.distinct (List.mem_of_find?_eq_some hfound) hmem
      hname]

end Catalog

theorem Block.register_eq_ok_iff {block : Block} {catalog grown : Catalog} :
    block.register catalog = .ok grown ↔
      block.name ≠ [] ∧ block.name ∉ catalog.templates.map Template.name ∧
        grown.templates = catalog.templates ++ [block.template] := by
  unfold register
  split
  · next hname => simp [hname]
  · next hname =>
    cases hregister : catalog.register block.template with
    | ok other =>
      obtain ⟨hfree, htemplates⟩ := Catalog.register_eq_ok_iff.mp hregister
      simp only [Except.ok.injEq]
      constructor
      · rintro rfl
        exact ⟨hname, hfree, htemplates⟩
      · rintro ⟨-, -, hgrown⟩
        exact Catalog.eq_of_templates_eq (htemplates.trans hgrown.symm)
    | error rejected =>
      simp only [reduceCtorEq, false_iff]
      rintro ⟨-, hfree, hgrown⟩
      have hok : catalog.register block.template = .ok grown :=
        Catalog.register_eq_ok_iff.mpr ⟨hfree, hgrown⟩
      rw [hregister] at hok
      cases hok

namespace Catalog

/-- The blocks have names that are new to the catalog and differ from each
    other. -/
def Takes (catalog : Catalog) (blocks : List Block) : Prop :=
  (∀ block ∈ blocks, block.name ≠ []) ∧
    (catalog.templates.map Template.name ++ blocks.map Block.name).Nodup

theorem takes_cons_iff {catalog : Catalog} {block : Block} {rest : List Block} :
    catalog.Takes (block :: rest) ↔
      ∃ grown, block.register catalog = .ok grown ∧ grown.Takes rest := by
  have hnames : catalog.templates.map Template.name ++ (block :: rest).map Block.name =
      (catalog.templates ++ [block.template]).map Template.name ++ rest.map Block.name := by
    simp [Block.template]
  rw [Takes, List.forall_mem_cons, hnames]
  constructor
  · rintro ⟨⟨hname, hrest⟩, hdistinct⟩
    have hgrown := (List.nodup_append.mp hdistinct).1
    have hfree : block.name ∉ catalog.templates.map Template.name := by
      rw [List.map_append, List.map_singleton] at hgrown
      intro hmem
      exact (List.nodup_append.mp hgrown).2.2 _ hmem _ (List.mem_singleton_self _) rfl
    exact ⟨⟨_, hgrown⟩, Block.register_eq_ok_iff.mpr ⟨hname, hfree, rfl⟩, hrest, hdistinct⟩
  · rintro ⟨grown, hregister, hrest, hdistinct⟩
    obtain ⟨hname, -, htemplates⟩ := Block.register_eq_ok_iff.mp hregister
    rw [htemplates] at hdistinct
    exact ⟨⟨hname, hrest⟩, hdistinct⟩

/-- No block has a problem exactly when all are taken in. -/
private theorem filterMap_snd_registerAll_eq_nil_iff {catalog : Catalog} {blocks : List Block} :
    (registerAll catalog blocks).2.filterMap Prod.snd = [] ↔ catalog.Takes blocks := by
  induction blocks generalizing catalog with
  | nil => simpa [registerAll, Takes] using catalog.distinct
  | cons block rest ih =>
    rw [registerAll, takes_cons_iff]
    cases hregister : block.register catalog with
    | ok grown => simp [ih]
    | error problem => simp

private theorem templates_registerAll {catalog : Catalog} {blocks : List Block}
    (htakes : catalog.Takes blocks) :
    (registerAll catalog blocks).1.templates =
      catalog.templates ++ blocks.map Block.template := by
  induction blocks generalizing catalog with
  | nil => exact (List.append_nil _).symm
  | cons block rest ih =>
    obtain ⟨grown, hregister, hrest⟩ := takes_cons_iff.mp htakes
    obtain ⟨-, -, htemplates⟩ := Block.register_eq_ok_iff.mp hregister
    rw [registerAll, hregister]
    simp [ih hrest, htemplates]

/-- A source is a catalog's exactly when its blocks have names, each a
    different one, and the catalog has their templates. -/
theorem parse_eq_ok_iff {source : Text} {catalog : Catalog} :
    parse source = .ok catalog ↔
      empty.Takes (blocks source) ∧
        catalog.templates = (blocks source).map Block.template := by
  rw [← filterMap_snd_registerAll_eq_nil_iff]
  unfold parse
  split
  next final outcomes hregister =>
    rw [hregister]
    cases hproblems : outcomes.filterMap Prod.snd with
    | nil =>
      have htakes : empty.Takes (blocks source) := by
        rw [← filterMap_snd_registerAll_eq_nil_iff, hregister]
        exact hproblems
      have hfinal := templates_registerAll htakes
      rw [hregister] at hfinal
      simp only [Except.ok.injEq, true_and]
      constructor
      · rintro rfl
        exact hfinal
      · intro htemplates
        exact eq_of_templates_eq (hfinal.trans htemplates.symm)
    | cons first rest => simp only [reduceCtorEq, false_and]

/-- A source that is not accepted has problems. -/
theorem ne_nil_of_parse_eq_error {source : Text} {problems : List Problem}
    (hparse : parse source = .error problems) : problems ≠ [] := by
  unfold parse at hparse
  split at hparse
  next catalog outcomes hregister =>
    cases hproblems : outcomes.filterMap Prod.snd with
    | nil =>
      rw [hproblems] at hparse
      cases hparse
    | cons first rest =>
      rw [hproblems] at hparse
      cases hparse
      exact List.cons_ne_nil _ _

end Catalog

end CheckPlan
