import CheckPlan.Reference.Token

namespace CheckPlan

/-- A reference to a check, with the arguments declared for it. It is written as
    in `$mysql "MySQL" 3306`. -/
structure Reference where
  check : Text
  args : List Text
  deriving DecidableEq, Repr

/-- A text that is no reference: it has no token, or its first token does not
    start with a dollar sign. -/
structure InvalidReference where
  reference : Text
  deriving DecidableEq, Repr

/-- What is said about a text that is no reference. -/
def InvalidReference.message (error : InvalidReference) : String :=
  s!"invalid reference '{error.reference.string}': expected '$<check> [args...]'"

/-- Reads a reference: the first token is the check behind its dollar sign,
    and the other tokens are the arguments. -/
def Reference.parse (text : Text) : Except InvalidReference Reference :=
  match text.tokens with
  | ('$' :: check) :: args => .ok ⟨check, args⟩
  | _ => .error ⟨text⟩

theorem Reference.eq_of_parse_eq_error {text : Text} {invalid : InvalidReference}
    (hparse : parse text = .error invalid) : invalid.reference = text := by
  unfold parse at hparse
  split at hparse
  · cases hparse
  · cases hparse
    rfl

end CheckPlan
