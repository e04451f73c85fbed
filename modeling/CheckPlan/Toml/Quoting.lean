import CheckPlan.Toml.Layout
import CheckPlan.Toml.Number

namespace CheckPlan

namespace Toml

open Numeral Reader

/-- The character of a code point that is written with `count` hexadecimal
    digits. -/
def codePoint (count : Nat) : Reader Char := do
  character? (← exactly count isHexDigit)

/-- The character of an escape, which starts with a backslash. -/
def escape : Reader Char := do
  mark '\\'
  match ← satisfying fun _ => true with
  | 'b' => return '\x08'
  | 't' => return '\t'
  | 'n' => return '\n'
  | 'f' => return '\x0c'
  | 'r' => return '\r'
  | '"' => return '"'
  | '\\' => return '\\'
  | 'u' => codePoint 4
  | 'U' => codePoint 8
  | _ => failure

/-- A run of characters that stand for themselves, without the given ones. -/
def plainRun (but : Text) : Reader Text :=
  run1 fun c => isPlain c && !but.contains c

/-- A string between double quotes on one line. -/
def basicString : Reader Text := do
  mark '"'
  let parts ← many (plainRun ['"', '\\'] <|> List.singleton <$> escape)
  mark '"'
  return parts.flatten

/-- A string between single quotes on one line, without escapes. -/
def literalString : Reader Text := do
  mark '\''
  let text ← run fun c => isPlain c && c != '\''
  mark '\''
  return text

/-- One or two quotes, which do not end a string of several lines. -/
def innerQuotes (quote : Char) : Reader Text := do
  let quotes ← run1 (· = quote)
  guard (quotes.length < 3)
  return quotes

/-- Three quotes that end a string of several lines, and up to two in front of
    them that belong to it. -/
def closingQuotes (quote : Char) : Reader Text := do
  let quotes ← run (· = quote)
  guard (3 ≤ quotes.length ∧ quotes.length ≤ 5)
  return quotes.drop 3

/-- A backslash at the end of a line, with the blanks and ends of lines behind
    it. It stands for nothing. -/
def continuation : Reader Text := do
  mark '\\'
  blanks
  newline
  discard (many (discard (run1 isSpace) <|> newline))
  return []

/-- An end of line inside of a string. -/
def innerNewline : Reader Text :=
  newline *> pure ['\n']

/-- A string of several lines between triples of a quote. An end of line right
    behind the first triple is dropped. -/
def longString (quote : Char) (part : Reader Text) : Reader Text := do
  literally [quote, quote, quote]
  discard (optional newline)
  let parts ← many part
  let last ← closingQuotes quote
  return parts.flatten ++ last

/-- A string of several lines between triples of double quotes. -/
def longBasicString : Reader Text :=
  longString '"' (plainRun ['"', '\\'] <|> innerNewline <|> continuation <|>
    List.singleton <$> escape <|> innerQuotes '"')

/-- A string of several lines between triples of single quotes, without
    escapes. -/
def longLiteralString : Reader Text :=
  longString '\'' (plainRun ['\''] <|> innerNewline <|> innerQuotes '\'')

/-- A string in any of the four forms. -/
def string : Reader Text :=
  longBasicString <|> basicString <|> longLiteralString <|> literalString

end Toml

end CheckPlan
