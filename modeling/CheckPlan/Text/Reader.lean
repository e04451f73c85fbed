import CheckPlan.Text.Basic

namespace CheckPlan

/-- Takes a value off the front of a text, leaving the rest, or fails. -/
abbrev Reader := StateT Text Option

namespace Reader

variable {α β σ : Type}

/-- The next character, if it is in a class. -/
def satisfying (isIn : Char → Bool) : Reader Char := fun text =>
  match text with
  | c :: rest => if isIn c then some (c, rest) else none
  | [] => none

/-- The next `count` characters, if all of them are in a class. -/
def exactly (count : Nat) (isIn : Char → Bool) : Reader Text := fun text =>
  let taken := text.take count
  if taken.length = count ∧ taken.all isIn then some (taken, text.drop count) else none

/-- Takes the given characters. -/
def literally (word : Text) : Reader Unit := fun text =>
  if word.isPrefixOf text then some ((), text.drop word.length) else none

/-- Takes the given character. -/
def mark (c : Char) : Reader Unit :=
  literally [c]

/-- As many values as asked for, of a reader that is used again and again. -/
def times (reader : Reader α) : Nat → Reader (List α)
  | 0 => return []
  | count + 1 => do return (← reader) :: (← times reader count)

/-- The longest run of characters of a class, which may be empty. -/
def run (isIn : Char → Bool) : Reader Text := fun text =>
  some (text.takeWhile isIn, text.dropWhile isIn)

/-- The longest run of characters of a class, with at least one. -/
def run1 (isIn : Char → Bool) : Reader Text := do
  let taken ← run isIn
  guard (taken ≠ [])
  return taken

/-- Takes nothing, and succeeds at the end of the text. -/
def atEnd : Reader Unit := fun text =>
  if text.isEmpty then some ((), text) else none

/-- The values that a reader takes one after the other, up to where it fails
    or takes no characters. -/
def allFrom (reader : Reader α) (text : Text) : List α × Text :=
  match reader text with
  | none => ([], text)
  | some (value, rest) =>
    if rest.length < text.length then
      let (values, after) := allFrom reader rest
      (value :: values, after)
    else
      ([value], rest)
termination_by text.length

/-- As many values as the reader takes. -/
def many (reader : Reader α) : Reader (List α) := fun text =>
  some (allFrom reader text)

/-- The answer that steps come to, each of which starts from the state that the
    one before has left. There is none if a step fails, or if it neither answers
    nor takes characters. -/
def stepwise (step : σ → Reader (σ ⊕ α)) (state : σ) : Reader α := fun text =>
  match step state text with
  | none => none
  | some (.inr answer, rest) => some (answer, rest)
  | some (.inl next, rest) =>
    if rest.length < text.length then stepwise step next rest else none
termination_by text => text.length

/-- One or more values with separators between them. -/
def separated1 (item : Reader α) (separator : Reader β) : Reader (List α) := do
  let first ← item
  let others ← many (separator *> item)
  return first :: others

/-- The characters that a reader takes. -/
def taken (reader : Reader Unit) : Reader Text := fun text =>
  (reader text).map fun (_, rest) => (text.take (text.length - rest.length), rest)

/-- The value of a reader that takes the whole text. -/
def all? (reader : Reader α) (text : Text) : Option α :=
  match reader text with
  | some (value, []) => some value
  | _ => none

end Reader

end CheckPlan
