import CheckPlan.Log.Pattern.Flags
import CheckPlan.Text.Numeral

namespace CheckPlan

namespace Pattern

/-- What a pattern is made of. -/
inductive Atom
  | character (c : Char)
  /-- A character that is given by two digits, and may be a byte. -/
  | byte (c : Char)
  /-- The dot. -/
  | any
  /-- An end of a line or of the text. -/
  | edge
  /-- A place at the border of a word, or one that is not. -/
  | border
  /-- A digit, a blank or a character of a word, or what is none. -/
  | kind (isNegated : Bool)
  deriving DecidableEq, Repr

namespace Atom

open Numeral Reader

/-- The character of so many hexadecimal digits. -/
def ofDigits (flags : Flags) (count : Nat) : Reader Char := do
  character? (← times (flags.filling *> satisfying isHexDigit) count)

/-- What a backslash and what is behind it stand for. Of the letters and digits
    only those that are named here mean something. -/
def escaped (flags : Flags) : Reader Atom := do
  mark '\\'
  match ← satisfying fun _ => true with
  | 'x' => return .byte (← ofDigits flags 2)
  | 'u' => return .character (← ofDigits flags 4)
  | 'U' => return .character (← ofDigits flags 8)
  | 'd' | 's' | 'w' => return .kind false
  | 'D' | 'S' | 'W' => return .kind true
  | 'A' | 'z' => return .edge
  | 'b' | 'B' | '<' | '>' => return .border
  | 'a' => return .character '\x07'
  | 'f' => return .character '\x0c'
  | 't' => return .character '\t'
  | 'n' => return .character '\n'
  | 'r' => return .character '\r'
  | 'v' => return .character '\x0b'
  | c =>
    guard (c.toNat < 0x80 ∧ ¬ c.isAlphanum)
    return .character c

/-- An atom between the parts of a pattern. -/
def read (flags : Flags) : Reader Atom :=
  escaped flags <|> (do
    let c ← satisfying (· ∉ ['\\', '(', ')', '[', '|', '?', '*', '+', '\x7b'])
    match c with
    | '.' => return .any
    | '^' | '$' => return .edge
    | _ => return .character c)

/-- An atom in a set of characters, where most characters are nothing but
    themselves. -/
def readMember (flags : Flags) : Reader Atom :=
  escaped flags <|> .character <$> satisfying (· ≠ '\\')

/-- Whether the atom is known, which depends on the flags. Case and kinds of
    characters are known for bytes below 128 only, and bytes that are not text are
    never matched. -/
def isKnown (flags : Flags) : Atom → Bool
  | .character _ => !(flags.unicode && flags.caseless)
  | .byte c => if flags.unicode then !flags.caseless else c.toNat < 0x80
  | .any => flags.unicode
  | .edge => true
  | .border => !flags.unicode
  | .kind isNegated => !flags.unicode && !isNegated

/-- Whether the atom is known as a member of a set. -/
def isMember (flags : Flags) : Atom → Bool
  | .character c | .byte c => if flags.unicode then !flags.caseless else c.toNat < 0x80
  | .kind isNegated => !flags.unicode && !isNegated
  | _ => false

/-- The character that the atom stands for. -/
def character? : Atom → Option Char
  | .character c | .byte c => some c
  | _ => none

end Atom

end Pattern

end CheckPlan
