import CheckPlan.Catalog.Source
import CheckPlan.Proofs.Assignment.Declaration
import CheckPlan.Reference.Basic

namespace CheckPlan

/-- The text is a segment of the line, which is one of the group or the host. -/
def Line.HasSegment (line : Line) : Owner → Text → Prop
  | .group name, text =>
    ∃ segments, Declaration.ofLine? line.raw = some (.group name segments) ∧ text ∈ segments
  | .host name, text =>
    ∃ segments, Declaration.ofLine? line.raw = some (.host name segments) ∧ text ∈ segments

/-- The text of a line that a cause complains about: a segment of the line, or
    all of its text. -/
def Cause.Blames (line : Line) (text : Text) : Cause → Prop
  | .unknownCheck owner check =>
    line.HasSegment owner text ∧ ∃ args, Reference.parse text = .ok ⟨check, args⟩
  | .unknownGroup host group => line.HasSegment (.host host) text ∧ text = '@' :: group
  | .invalidReference reference =>
    (∃ owner, line.HasSegment owner text) ∧ text = reference
  | .malformedLine expected =>
    Declaration.ofLine? line.raw = some (.malformed expected) ∧ text = line.text
  | .duplicateTemplate name =>
    line.isHeader = true ∧ Text.trimEnd line.raw.tail = name ∧ text = line.text
  | .unnamedTemplate =>
    line.isHeader = true ∧ Text.trimEnd line.raw.tail = [] ∧ text = line.text

namespace Problem

/-- The problem has the number of a line of the source, and the source reads
    at its span, which is inside the text of that line, what it complains
    about. -/
def PointsInto (source : Text) (problem : Problem) : Prop :=
  ∃ line text, 1 ≤ problem.line ∧ source.lines[problem.line - 1]? = some line ∧
    line.span.start ≤ problem.span.start ∧ problem.span.stop ≤ line.span.stop ∧
    problem.span.stop = problem.span.start + Text.byteLength text ∧
    source.slice? problem.span = some text ∧ problem.cause.Blames line text

/-- The first problem ends before the second one starts. -/
def Precedes (left right : Problem) : Prop :=
  left.span.stop < right.span.start

/-- Problems with a source that each point into it, in the order of the source
    and without touching each other. -/
structure Located (source : Text) (problems : List Problem) : Prop where
  points : ∀ problem ∈ problems, problem.PointsInto source
  ordered : problems.Pairwise Precedes

/-- The problem has the number of the line and the span of a piece of its text,
    which is what it complains about. -/
def OnLine (line : Line) (problem : Problem) : Prop :=
  problem.line = line.number ∧ ∃ piece : Piece, piece.Within line.content ∧
    problem.span = piece.span ∧ problem.cause.Blames line piece.text

namespace OnLine

variable {line : Line} {problem : Problem}

theorem start_le (honline : problem.OnLine line) : line.offset ≤ problem.span.start := by
  obtain ⟨-, piece, hwithin, hspan, -⟩ := honline
  rw [hspan]
  exact hwithin.start_le

theorem stop_le (honline : problem.OnLine line) : problem.span.stop ≤ line.span.stop := by
  obtain ⟨-, piece, hwithin, hspan, -⟩ := honline
  rw [hspan]
  exact hwithin.stop_le

private theorem pointsInto {source : Text} (honline : problem.OnLine line)
    (hmem : line ∈ source.lines) :
    problem.PointsInto source := by
  have hstart := honline.start_le
  have hstop := honline.stop_le
  obtain ⟨hnumber, piece, hwithin, hspan, hblames⟩ := honline
  obtain ⟨hpositive, hget⟩ := Line.getElem?_lines_of_mem hmem
  have hstands := (Line.content_standsIn hmem).of_within hwithin
  rw [← hnumber] at hpositive hget
  refine ⟨line, piece.text, hpositive, hget, hstart, hstop, ?_, ?_, hblames⟩
  · rw [hspan]
    rfl
  · rw [hspan]
    exact hstands.slice?_span

end OnLine

/-- Problems collected from lines of a source, in order, are located in it. -/
theorem located_flatMap {α : Type} {source : Text} {outcomes : List α} {line : α → Line}
    {problems : α → List Problem} (hlines : (outcomes.map line).Sublist source.lines)
    (honline : ∀ outcome ∈ outcomes, ∀ problem ∈ problems outcome,
      problem.OnLine (line outcome))
    (hordered : ∀ outcome ∈ outcomes, (problems outcome).Pairwise Precedes) :
    Located source (outcomes.flatMap problems) := by
  constructor
  · intro problem hproblem
    obtain ⟨outcome, hmem, hproblem⟩ := List.mem_flatMap.mp hproblem
    have hline := hlines.subset (List.mem_map_of_mem hmem)
    exact (honline outcome hmem problem hproblem).pointsInto hline
  · have hapart := (Line.pairwise_lines source).sublist hlines
    rw [List.pairwise_map] at hapart
    rw [List.pairwise_flatMap]
    refine ⟨hordered, hapart.imp_of_mem ?_⟩
    intro first second hfirst hsecond hlt left hleft right hright
    have hstop := (honline first hfirst left hleft).stop_le
    have hstart := (honline second hsecond right hright).start_le
    unfold Precedes
    omega

end Problem

end CheckPlan
