import CheckPlan.Text.Line

namespace CheckPlan

/-- What a line that is neither blank nor a comment says. The segments are the
    parts between commas, without the blanks around them. -/
inductive Statement
  | group (name : Text) (segments : List Piece)
  | host (name : Text) (segments : List Piece)
  | malformed (expected : Text)
  deriving DecidableEq, Repr

namespace Statement

/-- The name before the first space and the segments after it, if there is a
    name and something follows it. -/
def definition? (piece : Piece) : Option (Text × List Piece) :=
  match piece.cut? ' ' with
  | none => none
  | some (name, segments) =>
    if name.text = [] ∨ Text.trim segments.text = [] then
      none
    else
      some (name.text, (segments.split ',').map Piece.trim)

/-- The form of a group's line. -/
def groupForm : Text :=
  "expected '@<group> <check refs>'".toList

/-- The form of a host's line. -/
def hostForm : Text :=
  "expected '<host> <check refs>'".toList

/-- What a line says, unless it is blank or a comment. -/
def ofLine? (line : Line) : Option Statement :=
  let content := line.content.trim
  match content.text with
  | [] => none
  | '#' :: _ => none
  | '@' :: _ =>
    match definition? (content.drop 1) with
    | some (name, segments) => some (.group name segments)
    | none => some (.malformed groupForm)
  | _ =>
    match definition? content with
    | some (name, segments) => some (.host name segments)
    | none => some (.malformed hostForm)

end Statement

/-- A line that says something, and what it says. -/
structure Clause where
  line : Line
  statement : Statement
  deriving DecidableEq, Repr

/-- The clauses of an assignment source, in order. -/
def Text.clauses (source : Text) : List Clause :=
  source.lines.filterMap fun line => (Statement.ofLine? line).map (Clause.mk line)

end CheckPlan
