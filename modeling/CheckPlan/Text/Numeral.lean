import CheckPlan.Text.Basic

namespace CheckPlan

namespace Numeral

/-- The number that a digit stands for. Letters stand for ten and more. -/
def digitValue (digit : Char) : Nat :=
  if digit.isDigit then digit.toNat - '0'.toNat else digit.toLower.toNat - 'a'.toNat + 10

/-- The number that digits stand for in a base. -/
def valueIn (base : Nat) (digits : Text) : Nat :=
  digits.foldl (fun value digit => base * value + digitValue digit) 0

/-- A hexadecimal digit. -/
def isHexDigit (c : Char) : Bool :=
  c.isDigit || ('a' ≤ c && c ≤ 'f') || ('A' ≤ c && c ≤ 'F')

/-- The character whose code point hexadecimal digits write, if there is one. -/
def character? (digits : Text) : Option Char :=
  let code := valueIn 16 digits
  if code.isValidChar then some (Char.ofNat code) else none

end Numeral

end CheckPlan
