import CheckPlan.Text.Basic

namespace CheckPlan

/-- What the header says. The time is written only when it is wanted and
    known. -/
structure HeaderOptions where
  generator : Text := "checkgen".toList
  timestamp : Bool := true
  notice : List Text := []
  deriving DecidableEq, Repr

namespace Header

/-- The first comment, with the time behind the generator if it is given. -/
def origin (generator : Text) : Option Text → Text
  | some time => "Generated by ".toList ++ generator ++ " on ".toList ++ time
  | none => "Generated by ".toList ++ generator

/-- The second comment. -/
def warning : Text :=
  "DO NOT EDIT: this file is auto-generated and will be overwritten.".toList

/-- The comments of the header, in order. -/
def comments (options : HeaderOptions) (generatedAt : Option Text) : List Text :=
  origin options.generator (generatedAt.filter fun _ => options.timestamp) ::
    warning :: options.notice

/-- A comment as a line of output. -/
def commentLine (comment : Text) : Text :=
  '#' :: ' ' :: (comment ++ ['\n'])

/-- The header, ending with an empty line. -/
def render (options : HeaderOptions) (generatedAt : Option Text) : Text :=
  (comments options generatedAt).flatMap commentLine ++ ['\n']

end Header

end CheckPlan
