import CheckPlan.Report.Basic
import CheckPlan.Report.Width

namespace CheckPlan

/-- What a part of a report is, which decides its colour. -/
inductive Tone
  | frame
  | gutter
  | source
  | mark
  deriving DecidableEq, Repr

/-- The code that starts the colour of a tone. -/
def Tone.code : Tone → String
  | .frame => "\x1b[38;5;246m"
  | .gutter => "\x1b[38;5;240m"
  | .source => "\x1b[38;5;249m"
  | .mark => "\x1b[31m"

/-- The part in the colour of a tone. -/
def Tone.paint (tone : Tone) (part : String) : String :=
  tone.code ++ part ++ "\x1b[0m"

/-- As many spaces as are asked for. -/
def spaces (count : Nat) : String :=
  String.ofList (List.replicate count ' ')

namespace Excerpt

/-- The width of the margin, which holds the numbers of the lines. -/
def numberWidth (excerpt : Excerpt) : Nat :=
  (toString excerpt.last.number).length

/-- A character of a line as it is shown. White space is shown as spaces, as
    many as there are cells. -/
def shown (excerpt : Excerpt) (line : DisplayLine) (c : Char) (column : Nat) : String :=
  let tone := if excerpt.marks line column then Tone.mark else Tone.source
  if isBlank c then
    String.join (List.replicate (CellWidth.ofChar column c) (tone.paint " "))
  else
    tone.paint (String.singleton c)

/-- A line with its marked characters in the colour of the mark. -/
def sourceText (excerpt : Excerpt) (line : DisplayLine) : String :=
  String.join (line.text.zipIdx.map fun (c, column) => excerpt.shown line c column)

/-- The number of a line, in the margin. -/
def lineNumber (excerpt : Excerpt) (line : DisplayLine) : String :=
  let number := toString line.number
  " " ++ Tone.frame.paint (spaces (excerpt.numberWidth - number.length) ++ number ++ " │") ++ " "

/-- The margin of a row without a line, up to the given rule. -/
def margin (excerpt : Excerpt) (rule : String) : String :=
  " " ++ Tone.gutter.paint (spaces (excerpt.numberWidth + 1) ++ rule) ++ " "

/-- The cells of the first columns of a line. Behind the end of the line every
    column has one. -/
def cells (line : DisplayLine) (columns : Nat) : List Nat :=
  let widths := line.text.zipIdx.map fun (c, column) => CellWidth.ofChar column c
  (widths ++ List.replicate (columns - widths.length) 1).take columns

/-- The first cell of a column, and the further ones. A column without cells
    shows nothing. -/
def fillCells (head tail : String) : Nat → String
  | 0 => ""
  | further + 1 => head ++ String.join (List.replicate further tail)

/-- A row below a line, made of a head and a tail for each of its first
    columns. -/
def markRow (line : DisplayLine) (columns : Nat) (head tail : Nat → String) : String :=
  String.join ((cells line columns).zipIdx.map fun (width, column) =>
    fillCells (head column) (tail column) width)

/-- The number of columns below a line on which the mark ends. They run up to
    the second one behind the mark. -/
def columns (excerpt : Excerpt) : Nat :=
  excerpt.stop - excerpt.first.offset + 2

/-- The row that underlines the marked characters and starts the arm of the
    label. -/
def underlineRow (excerpt : Excerpt) : String :=
  let isMarked := excerpt.marks excerpt.first
  let line (column : Nat) := if isMarked column then Tone.mark.paint "─" else " "
  let head (column : Nat) :=
    if column = excerpt.labelColumn then
      Tone.mark.paint (if isMarked column then "┬" else "│")
    else
      line column
  let tail (column : Nat) :=
    if column = excerpt.labelColumn then
      Tone.mark.paint (if isMarked column then "─" else " ")
    else
      line column
  markRow excerpt.first excerpt.columns head tail

/-- The row that leads from the arm to the label. -/
def armRow (excerpt : Excerpt) : String :=
  let head (column : Nat) :=
    if column < excerpt.labelColumn then " "
    else if column = excerpt.labelColumn then Tone.mark.paint "╰"
    else Tone.mark.paint "─"
  let tail (column : Nat) :=
    if column < excerpt.labelColumn then " " else Tone.mark.paint "─"
  markRow excerpt.first excerpt.columns head tail

/-- The rows for a mark on one line: the line, and the label below the mark. A
    mark that does not fit is not shown. -/
def inlineRows (excerpt : Excerpt) (label : String) : List String :=
  if excerpt.fits then
    [excerpt.lineNumber excerpt.first ++ excerpt.sourceText excerpt.first,
      excerpt.margin "│" ++ excerpt.underlineRow,
      excerpt.margin "│" ++ excerpt.armRow ++ " " ++ label]
  else
    [excerpt.margin "│"]

/-- A row of the bracket that goes along the lines of a mark: its corner, what
    leads from there to the line, and the line. -/
def bracketRow (excerpt : Excerpt) (corner : String) (line : DisplayLine) : String :=
  excerpt.lineNumber line ++ String.join (([corner, "─", "▶", " "]).map Tone.mark.paint) ++
    excerpt.sourceText line

/-- The row in place of the lines between the first and the last one. -/
def gapRow (excerpt : Excerpt) : String :=
  excerpt.margin "┆" ++ Tone.mark.paint "┆" ++ "   "

/-- The last rows of the bracket, with the label at the end. They are as wide as
    the last line and two columns more. -/
def closingRows (excerpt : Excerpt) (label : String) : List String :=
  let row (cell : String) :=
    markRow excerpt.last (excerpt.last.raw.length + 2) (fun _ => cell) (fun _ => cell)
  let rule := Tone.mark.paint "─"
  [excerpt.margin "│" ++ Tone.mark.paint "│" ++ "   " ++ row " ",
    excerpt.margin "│" ++ Tone.mark.paint "╰" ++ rule ++ rule ++ rule ++ row rule ++ " " ++ label]

/-- The rows for a mark that runs over several lines: its first and its last
    line, with a gap for those between them. If the mark runs on behind the end
    of the source, the last line is not reached. -/
def bracketRows (excerpt : Excerpt) (label : String) : List String :=
  let opening := excerpt.bracketRow "╭" excerpt.first
  if ¬ excerpt.fits then
    [opening, excerpt.gapRow]
  else
    let gap := if excerpt.first.number + 1 < excerpt.last.number then [excerpt.gapRow] else []
    opening :: gap ++ excerpt.bracketRow "├" excerpt.last :: excerpt.closingRows label

/-- The rows inside the frame. -/
def rows (excerpt : Excerpt) (label : String) : List String :=
  if excerpt.isInline then excerpt.inlineRows label else excerpt.bracketRows label

/-- The rows with the frame around them. -/
def framed (excerpt : Excerpt) (filename label : String) : List String :=
  let margin := spaces (excerpt.numberWidth + 2)
  let place := s!"{filename}:{excerpt.first.number}:{excerpt.firstColumn}"
  let foot := String.join (List.replicate (excerpt.numberWidth + 2) "─") ++ "╯"
  [margin ++ Tone.frame.paint "╭" ++ Tone.frame.paint "─" ++ Tone.frame.paint "[" ++ place ++
      Tone.frame.paint "]",
    margin ++ Tone.frame.paint "│"] ++
  excerpt.rows label ++ [Tone.frame.paint foot]

end Excerpt

namespace Report

/-- The rows of the report. -/
def rows (report : Report) : List String :=
  (Tone.mark.paint "Error:" ++ " " ++ report.message) ::
    match report.excerpt with
    | some excerpt => excerpt.framed report.filename report.label
    | none => []

/-- The report, each row ending with a line feed. -/
def render (report : Report) : String :=
  String.join (report.rows.map fun row => row ++ "\n")

end Report

/-- The report on a problem with a source, as a terminal shows it. -/
def Problem.report (source : Text) (filename : String) (problem : Problem) : String :=
  (Report.ofProblem source filename problem).render

end CheckPlan
