import CheckPlan.Log.Pattern.CharacterSet
import CheckPlan.Text.Alphanumeric

namespace CheckPlan

namespace Pattern

open Reader

/-- What is read of a pattern at one time. -/
inductive Part
  /-- The start of a group, which may have a name or switch flags inside. -/
  | opening (name : Option Text) (switch : Switch)
  /-- A switch for the rest of a group. -/
  | switch (switch : Switch)
  | closing
  | bar
  | repetition
  | set (depth : Nat)
  | atom (atom : Atom)
  deriving DecidableEq, Repr

namespace Part

/-- The name of a group, up to the bracket behind it. -/
def name : Reader Text := do
  let first ← satisfying fun c => c = '_' || isAlphabetic c
  let rest ← run fun c => c ∈ ['_', '.', '[', ']'] || isAlphanumeric c
  mark '>'
  return first :: rest

/-- Letters that switch flags, for a group or, if there are any, for the rest
    of one. -/
def switches : Reader Part := do
  let letters ← run (· ∉ [':', ')'])
  let switch ← Switch.ofText? letters
  if (← satisfying fun _ => true) = ':' then
    return .opening none switch
  else
    guard (letters ≠ [])
    return .switch switch

/-- What an opening parenthesis starts. -/
def group (flags : Flags) : Reader Part := do
  mark '(' *> flags.filling
  (literally ['?', 'P', '<'] <|> literally ['?', '<']) *> opened <$> name <|>
    mark '?' *> switches <|> pure (.opening none ⟨[], []⟩)
where
  opened (name : Text) : Part := .opening (some name) ⟨[], []⟩

/-- A repetition of what stands in front. A second question mark makes it as
    short as it can be. -/
def repeats : Reader Part :=
  satisfying (· ∈ ['?', '*', '+']) *> optional (mark '?') *> pure .repetition

/-- The next part of a pattern. A repetition that is counted between braces is
    not among them, since the value of a field holds no closing brace. -/
def read (flags : Flags) : Reader Part :=
  group flags <|> mark ')' *> pure .closing <|> mark '|' *> pure .bar <|> repeats <|>
    .set <$> CharacterSet.read flags <|> .atom <$> Atom.read flags

end Part

/-- What a group holds: its finished branches, the items of the last branch, and
    the depth of the last item if that may be repeated. -/
structure Content where
  branches : Siblings := {}
  items : Siblings := {}
  last : Option Nat := none
  deriving DecidableEq, Repr

namespace Content

/-- The content with one more item, which may be repeated. -/
def add (content : Content) (depth : Nat) : Content :=
  { content with items := content.items.add depth, last := some depth }

/-- The content with a switch behind it, which may not be repeated. -/
def addSwitch (content : Content) : Content :=
  { content with items := content.items.add 0, last := none }

/-- The content with the last item repeated. -/
def repeatLast? (content : Content) : Option Content :=
  content.last.map fun depth =>
    { content with
      items := { content.items with deepest := max content.items.deepest (depth + 1) }
      last := some (depth + 1) }

/-- The content with the last branch finished. -/
def finishBranch (content : Content) : Content :=
  { branches := content.branches.add content.items.depth }

/-- The depth of the whole content. -/
def depth (content : Content) : Nat :=
  content.finishBranch.branches.depth

end Content

/-- How far a pattern has been read: the flags, the content of the group that is
    being read, the same of the groups around it from the inside out, and the
    names of groups. -/
structure State where
  flags : Flags := {}
  content : Content := {}
  outer : List (Flags × Content) := []
  names : List Text := []
  deriving DecidableEq, Repr

namespace State

/-- The greatest depth of a pattern. -/
def maxDepth : Nat := 250

/-- Whether a pattern may end here. -/
def isFinal (state : State) : Bool :=
  state.outer.isEmpty && state.content.depth ≤ maxDepth

/-- The state behind a part, if the part may stand here. Flags are switched up to
    the end of a group, over all branches that follow. -/
def next? (state : State) : Part → Option State
  | .opening name switch =>
    if name.any state.names.contains then
      none
    else
      some {
        flags := state.flags.switched switch
        content := {}
        outer := (state.flags, state.content) :: state.outer
        names := name.toList ++ state.names }
  | .switch switch =>
    some { state with
      flags := state.flags.switched switch
      content := state.content.addSwitch }
  | .closing =>
    match state.outer with
    | [] => none
    | (flags, content) :: outer =>
      some { state with
        flags := flags
        content := content.add (state.content.depth + 1)
        outer := outer }
  | .bar => some { state with content := state.content.finishBranch }
  | .repetition => state.content.repeatLast?.map fun content => { state with content := content }
  | .set depth => some { state with content := state.content.add depth }
  | .atom atom =>
    if atom.isKnown state.flags then some { state with content := state.content.add 0 } else none

/-- Reads a part, or answers with the state at the end of the text. -/
def step (state : State) : Reader (State ⊕ State) := do
  state.flags.filling
  (atEnd *> pure (.inr state)) <|> (do return .inl (← state.next? (← Part.read state.flags)))

end State

end Pattern

/-- Whether a pattern is well formed. -/
def Pattern.isWellFormed (pattern : Text) : Bool :=
  match (Reader.stepwise Pattern.State.step {}).all? pattern with
  | some state => state.isFinal
  | none => false

end CheckPlan
