import CheckPlan.Proofs.Assignment.Step
import CheckPlan.Proofs.Problem.Place

namespace CheckPlan

/-- Pieces that are within a piece, in its order and apart from each other. -/
structure Piece.Parts (whole : Piece) (parts : List Piece) : Prop where
  within : ∀ part ∈ parts, part.Within whole
  apart : parts.Pairwise fun left right => left.span.stop < right.span.start

namespace Piece.Parts

variable {whole inner : Piece} {parts : List Piece}

private theorem nil (whole : Piece) : Parts whole [] :=
  ⟨fun _ hmem => absurd hmem List.not_mem_nil, List.Pairwise.nil⟩

private theorem split (mark : Char) (whole : Piece) : Parts whole (whole.split mark) :=
  ⟨fun _ hmem => Within.of_mem_split hmem, pairwise_splitFrom mark whole.start whole.text⟩

theorem of_within (hparts : Parts inner parts) (hinner : inner.Within whole) :
    Parts whole parts :=
  ⟨fun part hmem => (hparts.within part hmem).trans hinner, hparts.apart⟩

/-- Trimming keeps pieces in order: each stays inside of where it was. -/
private theorem map_trim (hparts : Parts whole parts) : Parts whole (parts.map Piece.trim) := by
  constructor
  · intro part hmem
    obtain ⟨untrimmed, huntrimmed, rfl⟩ := List.mem_map.mp hmem
    exact (Within.trim untrimmed).trans (hparts.within untrimmed huntrimmed)
  · rw [List.pairwise_map]
    refine hparts.apart.imp ?_
    intro left right hlt
    have hstop := (Within.trim left).stop_le
    have hstart := (Within.trim right).start_le
    omega

private theorem definition? {piece : Piece} {name : Text} {segments : List Piece}
    (hdefinition : Statement.definition? piece = some (name, segments)) :
    Parts piece segments := by
  unfold Statement.definition? at hdefinition
  split at hdefinition
  · cases hdefinition
  · next first second hcut =>
    split at hdefinition
    · cases hdefinition
    · cases hdefinition
      exact (split ',' second).map_trim.of_within (Within.cut? hcut).2

end Piece.Parts

namespace Statement

/-- The segments of a statement. -/
def segments : Statement → List Piece
  | .group _ segments => segments
  | .host _ segments => segments
  | .malformed _ => []

/-- The segments of a line are parts of its text. -/
theorem parts_of_ofLine? {line : Line} {statement : Statement}
    (hline : ofLine? line = some statement) :
    Piece.Parts line.content statement.segments := by
  have htrim := Piece.Within.trim line.content
  have hdrop := (Piece.Within.drop line.content.trim 1).trans htrim
  unfold ofLine? at hline
  dsimp only at hline
  split at hline
  · cases hline
  · cases hline
  · split at hline
    · next name segments hdefinition =>
      cases hline
      exact (Piece.Parts.definition? hdefinition).of_within hdrop
    · cases hline
      exact Piece.Parts.nil _
  · split at hline
    · next name segments hdefinition =>
      cases hline
      exact (Piece.Parts.definition? hdefinition).of_within htrim
    · cases hline
      exact Piece.Parts.nil _

end Statement

namespace Text

/-- A clause says what its line says. -/
private theorem ofLine?_of_mem_clauses {clause : Clause} {source : Text}
    (hmem : clause ∈ source.clauses) :
    Statement.ofLine? clause.line = some clause.statement := by
  obtain ⟨line, -, hline⟩ := List.mem_filterMap.mp hmem
  obtain ⟨statement, hstatement, rfl⟩ := Option.map_eq_some_iff.mp hline
  exact hstatement

/-- The clauses are on the lines that say something. -/
theorem map_line_clauses (source : Text) :
    source.clauses.map Clause.line =
      source.lines.filter fun line => (Statement.ofLine? line).isSome := by
  rw [clauses, List.map_filterMap, ← List.filterMap_eq_filter]
  congr 1
  funext line
  cases hline : Statement.ofLine? line <;> simp [Option.guard, hline]

/-- The clauses are on some of the lines, in order. -/
private theorem map_line_clauses_sublist (source : Text) :
    (source.clauses.map Clause.line).Sublist source.lines := by
  rw [map_line_clauses]
  exact List.filter_sublist

end Text

namespace Resolve

variable {line : Line} {segment : Text} {cause : Cause}

theorem blames_of_reference {catalog : Catalog} {owner : Owner}
    (hsegment : line.HasSegment owner segment)
    (hread : reference catalog owner segment = .error cause) : cause.Blames line segment := by
  unfold reference at hread
  split at hread
  · next invalid hparse =>
    cases hread
    exact ⟨⟨owner, hsegment⟩, (Reference.eq_of_parse_eq_error hparse).symm⟩
  · next found hparse =>
    split at hread
    · cases hread
    · cases hread
      exact ⟨hsegment, found.args, hparse⟩

private theorem blames_of_expand {catalog : Catalog} {groups : Table Group} {host : Text}
    (hsegment : line.HasSegment (.host host) segment)
    (hread : expand catalog groups host segment = .error cause) : cause.Blames line segment := by
  unfold expand at hread
  split at hread
  · next name =>
    split at hread
    · cases hread
    · cases hread
      exact ⟨hsegment, rfl⟩
  · cases hreference : reference catalog (.host host) segment with
    | ok found =>
      rw [hreference] at hread
      cases hread
    | error actual =>
      rw [hreference] at hread
      cases hread
      exact blames_of_reference hsegment hreference

variable {α : Type} {read : Text → Except Cause α} {segments : List Piece}

private theorem onLine_of_mem_collect (hparts : Piece.Parts line.content segments)
    (hblames : ∀ segment ∈ segments, ∀ cause, read segment.text = .error cause →
      cause.Blames line segment.text) :
    ∀ problem ∈ (collect line read segments).2, problem.OnLine line := by
  intro problem hmem
  rw [collect_snd] at hmem
  obtain ⟨segment, hsegment, hproblem⟩ := List.mem_filterMap.mp hmem
  obtain ⟨cause, hcause, rfl⟩ := Option.map_eq_some_iff.mp hproblem
  have hread := hblames segment hsegment cause (cause?_eq_some_iff.mp hcause)
  exact ⟨rfl, segment, hparts.within segment hsegment, rfl, hread⟩

private theorem pairwise_collect (hparts : Piece.Parts line.content segments) :
    (collect line read segments).2.Pairwise Problem.Precedes := by
  rw [collect_snd, List.pairwise_filterMap]
  refine hparts.apart.imp ?_
  intro left right hlt first hfirst second hsecond
  obtain ⟨cause, -, rfl⟩ := Option.map_eq_some_iff.mp hfirst
  obtain ⟨other, -, rfl⟩ := Option.map_eq_some_iff.mp hsecond
  exact hlt

variable {clause : Clause}

/-- Every problem of a step is on the line of the clause. -/
private theorem onLine_of_mem_step (hclause : Statement.ofLine? clause.line = some clause.statement)
    (catalog : Catalog) (plan : Plan) :
    ∀ problem ∈ (step catalog plan clause).2, problem.OnLine clause.line := by
  have hparts := Statement.parts_of_ofLine? hclause
  have hdeclaration := Statement.map_ofLine? clause.line
  rw [hclause, Option.map_some] at hdeclaration
  unfold step
  cases hstatement : clause.statement with
  | malformed expected =>
    rw [hstatement] at hdeclaration
    intro problem hmem
    obtain rfl := List.mem_singleton.mp hmem
    exact ⟨rfl, clause.line.content, Piece.Within.refl _, rfl, hdeclaration.symm, rfl⟩
  | group name segments =>
    rw [hstatement] at hdeclaration hparts
    refine onLine_of_mem_collect hparts ?_
    intro segment hmem cause hread
    have hsegment : clause.line.HasSegment (.group name) segment.text :=
      ⟨segments.map Piece.text, hdeclaration.symm, List.mem_map_of_mem hmem⟩
    exact blames_of_reference hsegment hread
  | host name segments =>
    rw [hstatement] at hdeclaration hparts
    refine onLine_of_mem_collect hparts ?_
    intro segment hmem cause hread
    have hsegment : clause.line.HasSegment (.host name) segment.text :=
      ⟨segments.map Piece.text, hdeclaration.symm, List.mem_map_of_mem hmem⟩
    exact blames_of_expand hsegment hread

private theorem pairwise_step (hclause : Statement.ofLine? clause.line = some clause.statement)
    (catalog : Catalog) (plan : Plan) :
    (step catalog plan clause).2.Pairwise Problem.Precedes := by
  have hparts := Statement.parts_of_ofLine? hclause
  unfold step
  cases hstatement : clause.statement with
  | malformed expected => exact List.pairwise_singleton _ _
  | group name segments =>
    rw [hstatement] at hparts
    exact pairwise_collect hparts
  | host name segments =>
    rw [hstatement] at hparts
    exact pairwise_collect hparts

end Resolve

/-- The problems with assignments are located in their source. -/
theorem Catalog.located_reported_resolve (catalog : Catalog) (source : Text) :
    Problem.Located source (Problem.reported (catalog.resolve source)) := by
  rw [reported_resolve]
  have hclauses := Resolve.map_fst_steps catalog Plan.empty source.clauses
  have hstep : ∀ outcome ∈ (Resolve.steps catalog Plan.empty source.clauses).2,
      Statement.ofLine? outcome.1.line = some outcome.1.statement ∧
        ∃ plan, (Resolve.step catalog plan outcome.1).2 = outcome.2 := by
    intro outcome hmem
    have hclause := List.mem_map_of_mem (f := Prod.fst) hmem
    rw [hclauses] at hclause
    exact ⟨Text.ofLine?_of_mem_clauses hclause, Resolve.exists_step_of_mem_steps hmem⟩
  refine @Problem.located_flatMap _ source _ (fun outcome => outcome.1.line) _ ?_ ?_ ?_
  · have hlines := Text.map_line_clauses_sublist source
    rw [← hclauses, List.map_map] at hlines
    exact hlines
  · intro outcome hmem
    obtain ⟨hclause, plan, hproblems⟩ := hstep outcome hmem
    rw [← hproblems]
    exact Resolve.onLine_of_mem_step hclause catalog plan
  · intro outcome hmem
    obtain ⟨hclause, plan, hproblems⟩ := hstep outcome hmem
    rw [← hproblems]
    exact Resolve.pairwise_step hclause catalog plan

end CheckPlan
