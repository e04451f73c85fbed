import CheckPlan.Problem
import CheckPlan.Report.DisplayLine

namespace CheckPlan

/-- The lines of the first and the last marked character, and the characters
    of the source from `start` up to `stop` that are marked. -/
structure Excerpt where
  first : DisplayLine
  last : DisplayLine
  start : Nat
  stop : Nat
  deriving DecidableEq, Repr

namespace Excerpt

/-- The excerpt for a span. The ends of the span are taken for counts of
    characters, so the mark is right when what is in front of it is ASCII. There
    is none if an end of the span is not on a line. A span without characters
    counts as its start. -/
def ofSpan? (source : Text) (span : Span) : Option Excerpt := do
  let first ← DisplayLine.at? source span.start
  let last ← DisplayLine.at? source (max span.start (span.stop - 1))
  return ⟨first, last, span.start, span.stop⟩

/-- Whether the character in a column of a line is marked. -/
def marks (excerpt : Excerpt) (line : DisplayLine) (column : Nat) : Bool :=
  excerpt.start ≤ line.offset + column && line.offset + column < excerpt.stop

/-- The characters of a line that are marked. -/
def markedOn (excerpt : Excerpt) (line : DisplayLine) : Text :=
  (line.text.zipIdx.filter fun (_, column) => excerpt.marks line column).map Prod.fst

/-- The column of the first marked character, counted from one. -/
def firstColumn (excerpt : Excerpt) : Nat :=
  excerpt.start - excerpt.first.offset + 1

/-- The column below which the label hangs: the middle of the mark. -/
def labelColumn (excerpt : Excerpt) : Nat :=
  (excerpt.start + excerpt.stop) / 2 - excerpt.first.offset

/-- Whether all that is marked is on one line. -/
def isInline (excerpt : Excerpt) : Bool :=
  excerpt.first.number = excerpt.last.number

/-- Whether the mark ends on the last line or right behind it, and not further
    behind the end of the source. -/
def fits (excerpt : Excerpt) : Bool :=
  excerpt.stop ≤ excerpt.last.offset + excerpt.last.raw.length

end Excerpt

/-- What is wrong, the label of the mark, the name of the source, and the
    excerpt to show if there is one. -/
structure Report where
  message : String
  label : String
  filename : String
  excerpt : Option Excerpt

/-- The report on a problem with a source. -/
def Report.ofProblem (source : Text) (filename : String) (problem : Problem) : Report :=
  ⟨problem.message, problem.cause.label, filename, Excerpt.ofSpan? source problem.span⟩

end CheckPlan
