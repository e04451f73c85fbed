import CheckPlan.Text.Blank

namespace CheckPlan

/-- A line that is shown: its number from one, the character at which it
    starts, and its characters with those that end it. -/
structure DisplayLine where
  number : Nat
  offset : Nat
  raw : Text
  deriving DecidableEq, Repr

namespace DisplayLine

/-- The characters that end a line, apart from a carriage return in front of a
    line feed. -/
def isEnd (c : Char) : Bool :=
  c = '\n' || c = '\r' || c = '\x0b' || c = '\x0c' || c = '\u0085' || c = '\u2028' || c = '\u2029'

/-- The text cut after every line end. A carriage return and a line feed are
    one line end. No part is empty. -/
def rawLines : Text → List Text
  | [] => []
  | c :: rest =>
    if isEnd c && !(c = '\r' && rest.head? = some '\n') then
      [c] :: rawLines rest
    else
      match rawLines rest with
      | [] => [[c]]
      | line :: more => (c :: line) :: more

/-- Lines with consecutive numbers, each starting where the one before it
    ends. -/
def numberFrom (number offset : Nat) : List Text → List DisplayLine
  | [] => []
  | raw :: rest => ⟨number, offset, raw⟩ :: numberFrom (number + 1) (offset + raw.length) rest

/-- The lines of a source, in order. -/
def ofSource (source : Text) : List DisplayLine :=
  numberFrom 1 0 (rawLines source)

/-- The line of a character: the last one that starts at or before it. The end
    of the source is on its last line, and nothing behind it is on a line. -/
def at? (source : Text) (offset : Nat) : Option DisplayLine :=
  if source.length < offset then
    none
  else
    ((ofSource source).filter fun line => line.offset ≤ offset).getLast?

/-- The line without the blanks at its end. -/
def text (line : DisplayLine) : Text :=
  Text.trimEnd line.raw

end DisplayLine

end CheckPlan
