import CheckPlan.Proofs.Assignment.Meaning
import CheckPlan.Proofs.Assignment.Place

namespace CheckPlan

/-- Whether the line is blank or a comment. -/
def Line.saysNothing (line : Line) : Bool :=
  Text.trim line.text = [] ∨ (Text.trim line.text).head? = some '#'

namespace Text

/-- The lines of a source that say something, in order. -/
def saidLines (source : Text) : List Line :=
  source.lines.filter fun line => !line.saysNothing

/-- What the lines of a source say, without the blanks around it. -/
def said (source : Text) : List Text :=
  source.saidLines.map fun line => trim line.text

end Text

/-- Problems with two sources are alike when they have one cause and are on
    lines that correspond, counted over the lines that say something. -/
structure Problem.Alike (source other : Text) (problem counterpart : Problem) : Prop where
  cause_eq : problem.cause = counterpart.cause
  lines : ∃ line otherLine, (line, otherLine) ∈ source.saidLines.zip other.saidLines ∧
    problem.line = line.number ∧ counterpart.line = otherLine.number

/-- Two sources come out alike when both are accepted with one plan, or both are
    rejected with problems that are alike one by one. -/
inductive AlikeOutcomes (source other : Text) :
    Except (List Problem) Plan → Except (List Problem) Plan → Prop
  | accepted (plan : Plan) : AlikeOutcomes source other (.ok plan) (.ok plan)
  | rejected {problems counterparts : List Problem}
      (hproblems : List.Forall₂ (Problem.Alike source other) problems counterparts) :
      AlikeOutcomes source other (.error problems) (.error counterparts)

namespace Declaration

/-- A line says what its trimmed text says. -/
theorem ofLine?_raw (line : Line) :
    ofLine? line.raw =
      if line.saysNothing then none else some (ofText (Text.trim line.text)) := by
  rw [ofLine?, Line.trim_raw, Line.saysNothing]
  simp only [decide_eq_true_eq]

end Declaration

namespace Text

theorem declarations_eq_map_said (source : Text) :
    source.declarations = source.said.map Declaration.ofText := by
  rw [declarations, ← Line.map_raw_lines, List.filterMap_map, said, saidLines, List.map_map,
    ← List.filterMap_eq_map, ← List.filterMap_eq_filter, List.filterMap_filterMap]
  congr 1
  funext line
  rw [Function.comp_apply, Declaration.ofLine?_raw]
  cases hline : line.saysNothing <;> simp [Option.guard, hline]

/-- The clauses are on the lines that say something. -/
private theorem map_line_clauses_eq_saidLines (source : Text) :
    source.clauses.map Clause.line = source.saidLines := by
  rw [map_line_clauses, saidLines]
  congr 1
  funext line
  rw [← Option.isSome_map (f := Statement.declaration), Statement.map_ofLine?,
    Declaration.ofLine?_raw]
  cases line.saysNothing <;> rfl

end Text

private theorem Line.line_of_mem_problems {line : Line} {judge : Text → Option Cause}
    {segments : List Piece} {problem : Problem} (hmem : problem ∈ line.problems judge segments) :
    problem.line = line.number := by
  obtain ⟨segment, -, hproblem⟩ := List.mem_filterMap.mp hmem
  obtain ⟨cause, -, rfl⟩ := Option.map_eq_some_iff.mp hproblem
  rfl

/-- The problems with a clause are on its line. -/
private theorem Clause.line_of_mem_problems {catalog : Catalog} {earlier : List Declaration}
    {clause : Clause} {problem : Problem} (hmem : problem ∈ clause.problems catalog earlier) :
    problem.line = clause.line.number := by
  rw [problems] at hmem
  split at hmem
  · rw [List.mem_singleton.mp hmem]
  · exact Line.line_of_mem_problems hmem
  · exact Line.line_of_mem_problems hmem

section Said

variable {source other : Text}

/-- Clauses of two sources correspond when they say the same on lines that
    correspond. -/
structure Clause.Corresponds (source other : Text) (clause counterpart : Clause) : Prop where
  declaration_eq : clause.declaration = counterpart.declaration
  lines : (clause.line, counterpart.line) ∈ source.saidLines.zip other.saidLines

private theorem Text.forall₂_clauses (hsaid : source.said = other.said) :
    List.Forall₂ (Clause.Corresponds source other) source.clauses other.clauses := by
  have hdeclarations : source.clauses.map Clause.declaration =
      other.clauses.map Clause.declaration := by
    rw [map_declaration_clauses, map_declaration_clauses, declarations_eq_map_said, hsaid,
      declarations_eq_map_said]
  refine (forall₂_of_map_eq hdeclarations).imp fun clause counterpart ⟨hdeclaration, hmem⟩ => ?_
  refine ⟨hdeclaration, ?_⟩
  rw [← map_line_clauses_eq_saidLines, ← map_line_clauses_eq_saidLines, List.zip_map]
  exact List.mem_map_of_mem hmem

/-- Clauses that correspond have problems that are alike, below clauses that say
    the same. -/
private theorem Clause.Corresponds.forall₂_problems {clause counterpart : Clause}
    (hclause : clause.Corresponds source other counterpart) (catalog : Catalog)
    (earlier : List Declaration) :
    List.Forall₂ (Problem.Alike source other) (clause.problems catalog earlier)
      (counterpart.problems catalog earlier) := by
  have hcauses : (clause.problems catalog earlier).map Problem.cause =
      (counterpart.problems catalog earlier).map Problem.cause := by
    rw [Clause.map_cause_problems, Clause.map_cause_problems, hclause.declaration_eq]
  refine (forall₂_of_map_eq hcauses).imp fun problem otherProblem ⟨hcause, hmem⟩ => ?_
  obtain ⟨hproblem, hother⟩ := List.of_mem_zip hmem
  exact ⟨hcause, _, _, hclause.lines, Clause.line_of_mem_problems hproblem,
    Clause.line_of_mem_problems hother⟩

namespace Catalog

private theorem forall₂_reported_resolve (hsaid : source.said = other.said) (catalog : Catalog) :
    List.Forall₂ (Problem.Alike source other) (Problem.reported (catalog.resolve source))
      (Problem.reported (catalog.resolve other)) := by
  have hclauses := forall₂_withEarlier List.Forall₂.nil (Text.forall₂_clauses hsaid)
  rw [reported_resolve_eq_problems, reported_resolve_eq_problems]
  refine List.rel_flatMap hclauses ?_
  rintro ⟨above, clause⟩ ⟨otherAbove, counterpart⟩ ⟨habove, hclause⟩
  have hearlier : above.map Clause.declaration = otherAbove.map Clause.declaration := by
    rw [← List.forall₂_eq_eq_eq, List.forall₂_map_left_iff, List.forall₂_map_right_iff]
    exact habove.imp fun _ _ hsame => hsame.declaration_eq
  dsimp only
  rw [hearlier]
  exact hclause.forall₂_problems catalog _

/-- Sources that say the same come out alike, whatever their layout. -/
theorem alikeOutcomes_of_said_eq (hsaid : source.said = other.said) (catalog : Catalog) :
    AlikeOutcomes source other (catalog.resolve source) (catalog.resolve other) := by
  have hreported := forall₂_reported_resolve hsaid catalog
  have haccepted : Problem.reported (catalog.resolve source) = [] ↔
      Problem.reported (catalog.resolve other) = [] := by
    rw [← List.length_eq_zero_iff, hreported.length_eq, List.length_eq_zero_iff]
  rw [← exists_resolve_eq_ok_iff_reported, ← exists_resolve_eq_ok_iff_reported] at haccepted
  cases hsource : catalog.resolve source with
  | ok plan =>
    obtain ⟨otherPlan, hother⟩ := haccepted.mp ⟨plan, hsource⟩
    have hmeans := means_of_resolve_eq_ok hother
    rw [Text.declarations_eq_map_said, ← hsaid, ← Text.declarations_eq_map_said] at hmeans
    rw [hother, hmeans.unique (means_of_resolve_eq_ok hsource)]
    exact .accepted plan
  | error problems =>
    cases hother : catalog.resolve other with
    | ok plan =>
      obtain ⟨accepted, haccept⟩ := haccepted.mpr ⟨plan, hother⟩
      cases hsource.symm.trans haccept
    | error counterparts =>
      rw [hsource, hother] at hreported
      exact .rejected hreported

/-- Indented and ended in another way, with lines that say nothing in between,
    a source has its problem further down. -/
theorem alikeOutcomes_of_said_eq_indented :
    ∃ (catalog : Catalog) (source other : Text), source.said = other.said ∧
      Problem.reported (catalog.resolve source) =
        [⟨.unknownCheck (.host ['h']) ['b'], 2, ⟨12, 14⟩⟩] ∧
      Problem.reported (catalog.resolve other) =
        [⟨.unknownCheck (.host ['h']) ['b'], 4, ⟨22, 24⟩⟩] ∧
      AlikeOutcomes source other (catalog.resolve source) (catalog.resolve other) := by
  have hsaid : Text.said "@g $a\nh @g, $b".toList =
      Text.said "  @g $a\t\r\n\t# c\n\nh @g, $b  \n".toList := by decide
  exact ⟨⟨[⟨['a'], [], 1⟩], by decide⟩, _, _, hsaid, rfl, rfl, alikeOutcomes_of_said_eq hsaid _⟩

end Catalog

end Said

end CheckPlan
