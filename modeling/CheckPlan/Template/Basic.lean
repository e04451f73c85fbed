import CheckPlan.Text.Basic

namespace CheckPlan

/-- A named block of text, in which `$1`, `$2` and so on stand for arguments, the
    host being the first. The line is that of its header in the catalog. -/
structure Template where
  name : Text
  body : Text
  line : Nat
  deriving DecidableEq, Repr

namespace Template

/-- The text with every `$` that the digits follow replaced, together with the
    digits, by the argument. What the argument brings in is not looked at. -/
def substitute (digits arg : Text) : Text → Text
  | [] => []
  | c :: rest =>
    if c = '$' ∧ digits.isPrefixOf rest = true then
      arg ++ substitute digits arg (rest.drop digits.length)
    else
      c :: substitute digits arg rest
termination_by text => text.length
decreasing_by
  · simp only [List.length_drop, List.length_cons]; omega
  · simp

/-- The text filled in with arguments that are numbered from `index` on, one
    argument after the other. What one argument brings in is open to the
    arguments after it. -/
def fillFrom (index : Nat) : List Text → Text → Text
  | [], text => text
  | arg :: args, text =>
    fillFrom (index + 1) args (substitute (Nat.toDigits 10 index) arg text)

/-- The text with `$1`, `$2` and so on replaced by the arguments in turn. `$1`
    is also found at the start of `$10`, and a number without an argument
    stays as it is. -/
def fill (text : Text) (args : List Text) : Text :=
  fillFrom 1 args text

end Template

end CheckPlan
