import CheckPlan.Toml.Scalar

namespace CheckPlan

namespace Toml

open Reader

/-- How many levels of values, or parts of a key, there must be fewer than. -/
def nestingLimit : Nat := 80

/-- A part of a key: a quoted string, or a word of letters, digits,
    underscores and hyphens. -/
def keyPart : Reader Text :=
  basicString <|> literalString <|>
    run1 fun c => c.isAlphanum || c = '_' || c = '-'

/-- A key, which is one part or several with dots between them. The parts
    before the last one are given apart. -/
def key : Reader (List Text × Text) := do
  let parts ← separated1 (blanks *> keyPart <* blanks) (mark '.')
  guard (parts.length < nestingLimit)
  match parts.getLast? with
  | some last => return (parts.dropLast, last)
  | none => failure

/-- A key and the value behind its equals sign. -/
def assignment (value : Reader Value) : Reader ((List Text × Text) × Value) := do
  let name ← key
  mark '='
  blanks
  return (name, ← value)

/-- An array of values that a reader takes. There may be a comma behind the
    last one. -/
def array (value : Reader Value) : Reader Value := do
  mark '['
  let items ← optional (do
    let items ← separated1 (filling *> value <* filling) (mark ',')
    discard (optional (mark ','))
    return items)
  filling
  mark ']'
  return .array false (items.getD [])

/-- A table between braces, on one line as far as its own parts go. -/
def inlineTable (value : Reader Value) : Reader Value := do
  mark '{'
  let assignments ← optional (separated1 (assignment value <* blanks) (mark ','))
  blanks
  mark '}'
  let entries := (assignments.getD []).foldlM
    (fun (entries : Entries) (name, value) => entries.addDotted name.2 value name.1) []
  match entries with
  | some entries => return .table .inline entries
  | none => failure

/-- A value with at most `levels` levels of arrays and inline tables. -/
def value : (levels : Nat) → Reader Value
  | 0 => scalar
  | levels + 1 => scalar <|> array (value levels) <|> inlineTable (value levels)

/-- What a line of a document says. -/
inductive Statement
  | assign (name : List Text × Text) (value : Value)
  | openTable (name : List Text × Text)
  | openItem (name : List Text × Text)

/-- A statement, without the blanks and the comment around it. -/
def statement : Reader Statement :=
  (do
    literally ['[', '[']
    let name ← key
    literally [']', ']']
    return .openItem name) <|>
  (do
    mark '['
    let name ← key
    mark ']'
    return .openTable name) <|>
  (do
    let (name, value) ← assignment (value (nestingLimit - 1))
    return .assign name value)

/-- A line of a document, which may be empty. -/
def line : Reader (Option Statement) :=
  blanks *> optional statement <* blanks <* optional comment

/-- The statements of a document. A byte order mark at its start is skipped. -/
def statements : Reader (List Statement) := do
  discard (optional (mark '\ufeff'))
  let lines ← separated1 line newline
  return lines.filterMap id

/-- The entries of a document while it is read, and the keys of the table that
    assignments go to. -/
structure State where
  entries : Entries
  path : List Text

namespace State

/-- The state after a statement, unless the statement repeats a key. -/
def step (state : State) : Statement → Option State
  | .assign name value =>
    (state.entries.changeAt (·.addDotted name.2 value name.1) state.path).map fun entries =>
      { state with entries := entries }
  | .openTable name =>
    (state.entries.changeAt (·.openTable name.2) name.1).map fun entries =>
      ⟨entries, name.1 ++ [name.2]⟩
  | .openItem name =>
    (state.entries.changeAt (·.openItem name.2) name.1).map fun entries =>
      ⟨entries, name.1 ++ [name.2]⟩

end State

/-- The entries of a document, if it is well formed and repeats no key. -/
def parse? (text : Text) : Option Entries := do
  let statements ← statements.all? text
  let final ← statements.foldlM State.step ⟨[], []⟩
  return final.entries

end Toml

end CheckPlan
