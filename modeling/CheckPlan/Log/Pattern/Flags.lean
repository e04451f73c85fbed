import CheckPlan.Text.Blank
import CheckPlan.Text.Reader

namespace CheckPlan

namespace Pattern

/-- Letters that switch flags on, and letters that switch flags off. -/
structure Switch where
  on : List Char
  off : List Char
  deriving DecidableEq, Repr

namespace Switch

/-- The switch that letters stand for. No letter is given twice, and a hyphen
    stands in front of those that switch flags off, of which there is one. -/
def ofText? (letters : Text) : Option Switch :=
  let known := ['i', 'm', 's', 'R', 'U', 'u', 'x', '-']
  if letters.all known.contains && letters.eraseDups = letters && letters.getLast? ≠ some '-' then
    some ⟨letters.takeWhile (· ≠ '-'), (letters.dropWhile (· ≠ '-')).drop 1⟩
  else
    none

/-- How the flag of a letter stands after the switch. -/
def apply (switch : Switch) (letter : Char) (before : Bool) : Bool :=
  switch.on.contains letter || (before && !switch.off.contains letter)

end Switch

/-- Those flags that decide whether a pattern is well formed. -/
structure Flags where
  /-- Letters stand for themselves in both cases. -/
  caseless : Bool := false
  /-- Characters are matched, and not bytes. -/
  unicode : Bool := true
  /-- Blanks and comments may stand between the parts of the pattern. -/
  spaced : Bool := false
  deriving DecidableEq, Repr

namespace Flags

open Reader

/-- The flags after a switch. -/
def switched (flags : Flags) (switch : Switch) : Flags :=
  ⟨switch.apply 'i' flags.caseless, switch.apply 'u' flags.unicode, switch.apply 'x' flags.spaced⟩

/-- A comment, up to the end of its line. -/
def comment : Reader Unit :=
  mark '#' *> discard (run (· ≠ '\n'))

/-- What may stand between the parts of a pattern. -/
def filling (flags : Flags) : Reader Unit :=
  if flags.spaced then discard (many (discard (run1 isBlank) <|> comment)) else pure ()

end Flags

end Pattern

end CheckPlan
