import CheckPlan.Log.Event
import CheckPlan.Log.Pattern.Basic
import CheckPlan.Text.Piece

namespace CheckPlan

/-- The least important level that is let through, or none at all. -/
abbrev Threshold := Option Level

namespace Threshold

/-- Whether a level is let through. -/
def admits (threshold : Threshold) (level : Level) : Bool :=
  match threshold with
  | some least => level.rank ≤ least.rank
  | none => false

/-- The thresholds with their names, from none on. -/
def all : List (String × Threshold) :=
  [("off", none), ("error", some .error), ("warn", some .warn), ("info", some .info),
    ("debug", some .debug), ("trace", some .trace)]

/-- The threshold that digits count, with or without a plus sign. -/
def ofDigits? (text : Text) : Option Threshold :=
  let digits := match text with
    | '+' :: rest => rest
    | _ => text
  if digits ≠ [] ∧ digits.all Char.isDigit = true then
    (all[Nat.ofDigitChars 10 digits 0]?).map Prod.snd
  else
    none

/-- The threshold of a name, in capital or small letters, or of a number. -/
def parse? (text : Text) : Option Threshold :=
  match ofDigits? text with
  | some threshold => some threshold
  | none => (all.find? fun entry => text.map Char.toLower = entry.1.toList).map Prod.snd

end Threshold

/-- What a directive asks of the values of an event: that there is one of the
    name, and what it is if that is given. -/
structure FieldFilter where
  name : Text
  value : Option Text
  deriving DecidableEq, Repr

namespace FieldFilter

/-- Whether a text writes a number, which may have a sign, a fraction and an
    exponent. -/
def isNumber (text : Text) : Bool :=
  let unsigned := match text with
    | '+' :: rest => rest
    | '-' :: rest => rest
    | _ => text
  let whole := unsigned.takeWhile Char.isDigit
  let behindWhole := unsigned.dropWhile Char.isDigit
  let fraction := match behindWhole with
    | '.' :: rest => rest.takeWhile Char.isDigit
    | _ => []
  let behind := match behindWhole with
    | '.' :: rest => rest.dropWhile Char.isDigit
    | _ => behindWhole
  let exponent := match behind with
    | c :: rest => if c.toLower = 'e' then some rest else none
    | [] => none
  let digits := match exponent with
    | some ('+' :: rest) => rest
    | some ('-' :: rest) => rest
    | some rest => rest
    | none => []
  ["inf", "infinity", "nan"].contains (String.ofList (unsigned.map Char.toLower)) ||
    (!(whole ++ fraction).isEmpty &&
      (behind.isEmpty || (exponent.isSome && !digits.isEmpty && digits.all Char.isDigit)))

/-- The filter that a text gives: a name, and a number or a pattern behind an
    equals sign. What stands behind a second equals sign is left alone. -/
def parse? (text : Text) : Option FieldFilter :=
  let name := text.takeWhile (· ≠ '=')
  match text.dropWhile (· ≠ '=') with
  | [] => if text = [] then none else some ⟨name, none⟩
  | _ :: behind =>
    let value := behind.takeWhile (· ≠ '=')
    if isNumber value || Pattern.isWellFormed value then some ⟨name, some value⟩ else none

end FieldFilter

/-- What events are selected, and up to which level they are let through. This is
    written `target[span{field=value}]=level`, and all parts but one may be
    missing. -/
structure Directive where
  target : Option Text := none
  span : Option Text := none
  field : Option FieldFilter := none
  threshold : Threshold := some .trace
  deriving DecidableEq, Repr

namespace Directive

/-- Whether a directive may start with a character, apart from the bracket of
    a span. -/
def isStart (c : Char) : Bool :=
  isAlphanumeric c || c = '-' || c = ':' || c = '_'

/-- The directive with the level that stands behind an equals sign at the end,
    if there is an equals sign and a level. -/
def withLevel? (directive : Directive) (given : Text) (rest : Piece) : Option Directive :=
  match rest.text with
  | [] => some directive
  | '=' :: _ => do
    let level ← Text.dropBytes? (rest.start + 1) given
    if level = [] then
      return directive
    else
      return { directive with threshold := ← Threshold.parse? level }
  | _ => none

/-- The directive with the span, the field and the level that stand behind an
    opening bracket. -/
def withSpan? (directive : Directive) (given : Text) (inner : Piece) : Option Directive := do
  let opening := inner.text.takeWhile fun c => c ≠ ']' && c ≠ '\x7b'
  let name ← given.slice? (Piece.span ⟨inner.start, opening⟩)
  let behind := inner.drop opening.length
  if behind.text.head? = some ']' then
    withLevel? { directive with span := some name } given (behind.drop 1)
  else
    let (field, closing) ← (behind.drop 1).cut? '\x7d'
    guard (closing.text.head? = some ']')
    let field ← FieldFilter.parse? (← given.slice? field.span)
    let span := if name = [] then none else some name
    withLevel? { directive with span := span, field := some field } given (closing.drop 1)

/-- Reads a directive. A word alone is a level, if it names one, and else a
    target. The parts are found in the text without the blanks at its ends, and
    are then read in the text as it was given, as many bytes behind its start. -/
def parse? (given : Text) : Option Directive := do
  let trimmed : Piece := ⟨0, Text.trim given⟩
  let first ← trimmed.text.head?
  if first = '[' then
    withSpan? {} given (trimmed.drop 1)
  else
    guard (isStart first)
    let opening := trimmed.text.takeWhile fun c => c ≠ '=' && c ≠ '['
    let rest := trimmed.drop opening.length
    if rest.text = [] then
      match Threshold.parse? given with
      | some threshold => return { threshold := threshold }
      | none => return { target := some given }
    else
      let target ← given.slice? (Piece.span ⟨0, opening⟩)
      if rest.text.head? = some '[' then
        withSpan? { target := some target } given (rest.drop 1)
      else
        withLevel? { target := some target } given rest

/-- Whether the directive selects an event. Its target starts the one of the
    event, and the event has its field. An event is not inside of any span and
    is not selected by its values. -/
def selects (directive : Directive) (event : Event) : Bool :=
  directive.span.isNone &&
    (match directive.target with
      | some target => target.isPrefixOf event.component.target
      | none => true) &&
    (match directive.field with
      | some ⟨name, none⟩ => event.fields.contains name
      | some ⟨_, some _⟩ => false
      | none => true)

/-- Whether of two directives that select the same event the second decides:
    unless the first has a longer target, or an equally long one and a field
    that the second lacks or whose name comes later. -/
def yieldsTo (directive other : Directive) : Bool :=
  let length (directive : Directive) := (directive.target.map fun target => target.length + 1).getD 0
  if length directive = length other then
    match directive.field, other.field with
    | none, _ => true
    | some _, none => false
    | some field, some otherField => Text.precedes field.name otherField.name
  else
    length directive < length other

end Directive

end CheckPlan
