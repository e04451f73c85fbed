import CheckPlan.Proofs.Assignment.Place
import Mathlib.Data.List.Basic

namespace CheckPlan

namespace Block

/-- A header is never lost and never moved. -/
theorem map_header_group (lines : List Line) :
    (group lines).2.map header = lines.filter Line.isHeader := by
  induction lines with
  | nil => rfl
  | cons line rest ih =>
    rw [group]
    cases hheader : line.isHeader with
    | true =>
      rw [List.filter_cons_of_pos hheader, ← ih]
      rfl
    | false =>
      rw [List.filter_cons_of_neg (by simp [hheader]), ← ih]
      rfl

/-- A block that is turned away has a problem with all of its header. -/
private theorem onLine_of_register_eq_error {block : Block} {catalog : Catalog} {problem : Problem}
    (hheader : block.header.isHeader = true)
    (hregister : block.register catalog = .error problem) : problem.OnLine block.header := by
  unfold register at hregister
  split at hregister
  · next hname =>
    cases hregister
    exact ⟨rfl, block.header.content, Piece.Within.refl _, rfl, hheader, hname, rfl⟩
  · split at hregister
    · cases hregister
    · next rejected hrejected =>
      cases hregister
      obtain ⟨-, rfl⟩ := Catalog.register_eq_error_iff.mp hrejected
      exact ⟨rfl, block.header.content, Piece.Within.refl _, rfl, hheader, rfl, rfl⟩

end Block

namespace Catalog

/-- The header of a block is a line that starts with a dollar sign. -/
theorem isHeader_of_mem_blocks {block : Block} {source : Text} (hmem : block ∈ blocks source) :
    block.header.isHeader = true := by
  have hheader := List.mem_map_of_mem (f := Block.header) hmem
  rw [blocks, Block.map_header_group] at hheader
  exact (List.mem_filter.mp hheader).2

theorem map_header_blocks_sublist (source : Text) :
    ((blocks source).map Block.header).Sublist source.lines := by
  rw [blocks, Block.map_header_group]
  exact List.filter_sublist

/-- A registration keeps the blocks. -/
private theorem map_fst_registerAll (catalog : Catalog) (blocks : List Block) :
    (registerAll catalog blocks).2.map Prod.fst = blocks := by
  induction blocks generalizing catalog with
  | nil => rfl
  | cons block rest ih =>
    rw [registerAll]
    cases block.register catalog with
    | ok grown => rw [List.map_cons, ih]
    | error problem => rw [List.map_cons, ih]

/-- The problem with a block is one with which some catalog turns it away. -/
private theorem exists_register_of_mem_registerAll {catalog : Catalog} {blocks : List Block}
    {block : Block} {problem : Problem}
    (hmem : (block, some problem) ∈ (registerAll catalog blocks).2) :
    ∃ before, block.register before = .error problem := by
  induction blocks generalizing catalog with
  | nil => cases hmem
  | cons first rest ih =>
    rw [registerAll] at hmem
    cases hregister : first.register catalog with
    | ok grown =>
      rw [hregister, List.mem_cons, Prod.mk.injEq] at hmem
      rcases hmem with ⟨-, hnone⟩ | hmem
      · cases hnone
      · exact ih hmem
    | error actual =>
      rw [hregister, List.mem_cons, Prod.mk.injEq, Option.some.injEq] at hmem
      rcases hmem with ⟨rfl, rfl⟩ | hmem
      · exact ⟨catalog, hregister⟩
      · exact ih hmem

/-- A source reports the problems of its blocks, one block after the other. -/
theorem reported_parse (source : Text) :
    Problem.reported (parse source) =
      (registerAll empty (blocks source)).2.flatMap fun outcome => outcome.2.toList := by
  rw [← List.filterMap_eq_flatMap_toList]
  unfold parse
  split
  next catalog outcomes hregister =>
    rw [hregister]
    cases hproblems : outcomes.filterMap Prod.snd with
    | nil => rfl
    | cons first rest => rfl

/-- The problems with a catalog are located in its source. -/
theorem located_reported_parse (source : Text) :
    Problem.Located source (Problem.reported (parse source)) := by
  rw [reported_parse]
  have hblocks := map_fst_registerAll empty (blocks source)
  refine @Problem.located_flatMap _ source _ (fun outcome => outcome.1.header) _ ?_ ?_ ?_
  · have hlines := map_header_blocks_sublist source
    rw [← hblocks, List.map_map] at hlines
    exact hlines
  · rintro ⟨block, outcome⟩ hmem problem hproblem
    have hblock := List.mem_map_of_mem (f := Prod.fst) hmem
    rw [hblocks] at hblock
    obtain rfl : outcome = some problem := Option.mem_toList.mp hproblem
    obtain ⟨before, hregister⟩ := exists_register_of_mem_registerAll hmem
    exact Block.onLine_of_register_eq_error (isHeader_of_mem_blocks hblock) hregister
  · rintro ⟨block, outcome⟩ -
    cases outcome with
    | none => exact List.Pairwise.nil
    | some problem => exact List.pairwise_singleton _ _

end Catalog

/-- Whatever is reported of a source, read as a catalog or as assignments, has
    the number of its line, a span inside the text of that line where the
    source reads what the problem complains about, and comes in the order of
    the source with something between the spans. -/
theorem Problem.reported_points_at_source (source : Text) :
    Located source (reported (Catalog.parse source)) ∧
      ∀ catalog : Catalog, Located source (reported (catalog.resolve source)) :=
  ⟨Catalog.located_reported_parse source,
    fun catalog => Catalog.located_reported_resolve catalog source⟩

end CheckPlan
