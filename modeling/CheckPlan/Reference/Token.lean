import CheckPlan.Text.Basic

namespace CheckPlan

namespace Token

/-- Where a scan stands: between two tokens, or inside one, outside or inside
    of quotes. -/
inductive Place
  | gap
  | bare
  | quoted
  deriving DecidableEq, Repr

/-- The rest of the token that is open, and the tokens after it. In a gap no
    token is open and the first part is empty. A quote that is never closed
    runs to the end. -/
def scan : Place → Text → Text × List Text
  | _, [] => ([], [])
  | .quoted, c :: rest =>
    if c = '"' then
      scan .bare rest
    else
      let (token, later) := scan .quoted rest
      (c :: token, later)
  | .bare, c :: rest =>
    if c = '"' then
      scan .quoted rest
    else if c = ' ' then
      ([], (scan .gap rest).2)
    else
      let (token, later) := scan .bare rest
      (c :: token, later)
  | .gap, c :: rest =>
    if c = '"' then
      let (token, later) := scan .quoted rest
      ([], token :: later)
    else if c = ' ' then
      ([], (scan .gap rest).2)
    else
      let (token, later) := scan .bare rest
      ([], (c :: token) :: later)

end Token

/-- The tokens of a text, with spaces between them. Double quotes keep the spaces
    that are inside of them, and are dropped. An empty token is written as two
    quotes, and a quote inside a token does not start a new one. -/
def Text.tokens (text : Text) : List Text :=
  (Token.scan .gap text).2

end CheckPlan
