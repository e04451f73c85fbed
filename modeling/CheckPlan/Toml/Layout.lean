import CheckPlan.Text.Reader

namespace CheckPlan

namespace Toml

open Reader

/-- A space or a tab. -/
def isSpace (c : Char) : Bool :=
  c = ' ' || c = '\t'

/-- A character that may stand in a comment, and in a string if it does not
    end or escape there: a tab or anything but a control of ASCII. -/
def isPlain (c : Char) : Bool :=
  c = '\t' || (0x20 ≤ c.toNat && c.toNat ≠ 0x7F)

/-- The end of a line. A carriage return counts only in front of a line feed. -/
def newline : Reader Unit :=
  mark '\n' <|> literally ['\r', '\n']

/-- Spaces and tabs. -/
def blanks : Reader Unit :=
  discard (run isSpace)

/-- A comment, up to the end of its line. -/
def comment : Reader Unit :=
  mark '#' *> discard (run isPlain)

/-- Blanks, comments and ends of lines, as they may stand inside of an array. -/
def filling : Reader Unit :=
  discard (many (discard (run1 isSpace) <|> newline <|> comment))

end Toml

end CheckPlan
