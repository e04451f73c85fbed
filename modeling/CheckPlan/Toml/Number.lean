import CheckPlan.Text.Numeral
import CheckPlan.Text.Reader

namespace CheckPlan

namespace Toml

open Numeral Reader

/-- Digits of a class behind another one, with single underscores in front of
    some of them. -/
def moreDigits (isIn : Char → Bool) : Reader Text :=
  many (satisfying isIn <|> (mark '_' *> satisfying isIn))

/-- Digits of a class, with single underscores between some of them. -/
def digitRun (isIn : Char → Bool) : Reader Text := do
  let first ← satisfying isIn
  return first :: (← moreDigits isIn)

/-- A plus or a minus. -/
def sign : Reader Char :=
  satisfying fun c => c = '+' || c = '-'

/-- The digits of a decimal number, which start with a zero only if there are
    no others. -/
def decimalDigits : Reader Text := do
  match ← satisfying Char.isDigit with
  | '0' => return ['0']
  | first => return first :: (← moreDigits Char.isDigit)

/-- An integer that fits into 64 bits with a sign. Only decimal ones have a
    sign. -/
def integer : Reader Int :=
  (do
    literally ['0', 'x']
    bounded (valueIn 16 (← digitRun isHexDigit))) <|>
  (do
    literally ['0', 'o']
    bounded (valueIn 8 (← digitRun fun c => '0' ≤ c && c ≤ '7'))) <|>
  (do
    literally ['0', 'b']
    bounded (valueIn 2 (← digitRun fun c => c = '0' || c = '1'))) <|>
  (do
    let negative := (← optional sign) = some '-'
    let value := valueIn 10 (← decimalDigits)
    bounded (if negative then -value else value))
where
  /-- The value, if it is in the range. -/
  bounded (value : Int) : Reader Int := do
    guard (-9223372036854775808 ≤ value ∧ value ≤ 9223372036854775807)
    return value

/-- Whether `digits`, read as a decimal number times ten to the given power,
    lies below the numbers that are rounded to infinity when they are stored
    with 53 bits. -/
def isFinite (digits : Text) (power : Int) : Bool :=
  let value := valueIn 10 digits
  let limit := Nat.pow 2 1024 - Nat.pow 2 970
  let length : Int := (digits.dropWhile (· = '0')).length
  if value = 0 ∨ length + power < 300 then true
  else if length + power > 320 then false
  else if 0 ≤ power then decide (value * Nat.pow 10 power.toNat < limit)
  else decide (value < limit * Nat.pow 10 (-power).toNat)

/-- A number with a fraction or an exponent. A positive one must not be too
    large to be stored. -/
def decimalFloat : Reader Unit := do
  let negative := (← optional sign) = some '-'
  let whole ← decimalDigits
  let fraction ← optional (mark '.' *> digitRun Char.isDigit)
  let exponent ← optional (do
    discard (satisfying fun c => c = 'e' || c = 'E')
    return (← optional sign, ← digitRun Char.isDigit))
  guard (fraction.isSome ∨ exponent.isSome)
  let digits := whole ++ fraction.getD []
  let shift : Int := match exponent with
    | some (some '-', power) => -(valueIn 10 power : Int)
    | some (_, power) => valueIn 10 power
    | none => 0
  guard (negative ∨ isFinite digits (shift - (fraction.getD []).length))

/-- An infinity or a value that is no number. -/
def specialFloat : Reader Unit :=
  discard (optional sign) *> (literally "inf".toList <|> literally "nan".toList)

/-- A number that is not an integer. -/
def float : Reader Unit :=
  decimalFloat <|> specialFloat

end Toml

end CheckPlan
