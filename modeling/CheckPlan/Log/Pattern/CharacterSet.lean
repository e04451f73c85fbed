import CheckPlan.Log.Pattern.Atom
import CheckPlan.Log.Pattern.Siblings

namespace CheckPlan

namespace Pattern

namespace CharacterSet

open Reader

/-- What is read of a set at one time. -/
inductive Part
  /-- A set that is given by its name. -/
  | named (isNegated : Bool)
  /-- The start of a set, with as many members as only count as such there. -/
  | opening (isNegated : Bool) (members : Nat)
  | closing
  | operator
  | member (atom : Atom)
  | range (first last : Atom)
  deriving DecidableEq, Repr

/-- The names of sets. -/
def names : List String :=
  ["alnum", "alpha", "ascii", "blank", "cntrl", "digit", "graph", "lower", "print", "punct",
    "space", "upper", "word", "xdigit"]

/-- A set that is given by its name. -/
def named : Reader Part := do
  literally ['[', ':']
  let caret ← optional (mark '^')
  let name ← run (· ≠ ':')
  literally [':', ']']
  guard (names.contains (Text.string name))
  return .named caret.isSome

/-- The start of a set: whether it is negated, and how many members are there.
    Hyphens are members at the start, and so is a closing bracket if it comes
    first. -/
def opening (flags : Flags) : Reader (Bool × Nat) := do
  mark '[' *> flags.filling
  let caret ← optional (mark '^' *> flags.filling)
  let hyphens ← many (mark '-' *> flags.filling)
  if hyphens.length = 0 then
    let bracket ← optional (mark ']' *> flags.filling)
    return (caret.isSome, if bracket.isSome then 1 else 0)
  else
    return (caret.isSome, hyphens.length)

/-- Whether what stands behind a hyphen makes it a member, and not the middle of
    a range. One comment sign is passed over like a blank, and the comment
    behind it is looked at. -/
def standsAlone (flags : Flags) (behind : Text) : Bool :=
  let next :=
    if flags.spaced then
      match behind.dropWhile isBlank with
      | '#' :: comment => (comment.dropWhile isBlank).head?
      | rest => rest.head?
    else
      behind.head?
  next = some ']' || next = some '-'

/-- The hyphen in the middle of a range, and what may stand behind it. -/
def toRange (flags : Flags) : Reader Unit := fun text =>
  match text with
  | '-' :: behind => if standsAlone flags behind then none else flags.filling behind
  | _ => none

/-- A member or a range of members. -/
def members (flags : Flags) : Reader Part := do
  let first ← Atom.readMember flags
  flags.filling
  match ← optional (toRange flags) with
  | some () => return .range first (← Atom.readMember flags)
  | none => return .member first

/-- The next part of a set. -/
def part (flags : Flags) : Reader Part :=
  flags.filling *> (named <|> start <$> opening flags <|> mark ']' *> pure .closing <|>
    (literally ['&', '&'] <|> literally ['-', '-'] <|> literally ['~', '~']) *> pure .operator <|>
    members flags)
where
  start : Bool × Nat → Part
    | (isNegated, members) => .opening isNegated members

/-- Whether a set that is given by its name is known, or what it leaves out. -/
def isNamed (flags : Flags) (isNegated : Bool) : Bool :=
  if flags.unicode then !flags.caseless else !isNegated

/-- A set that has not been closed: the members since the last operator, and the
    depth of what stands in front of it. -/
structure Unclosed where
  members : Siblings := {}
  left : Option Nat := none
  deriving DecidableEq, Repr

namespace Unclosed

/-- The set with one more member. -/
def add (set : Unclosed) (depth : Nat) : Unclosed :=
  { set with members := set.members.add depth }

/-- The depth of what the set holds. -/
def depth (set : Unclosed) : Nat :=
  match set.left with
  | some left => max left set.members.depth + 1
  | none => set.members.depth

/-- A set at its start. Only sets of characters can be negated. -/
def start? (flags : Flags) (isNegated : Bool) (members : Nat) : Option Unclosed :=
  if (isNegated && !flags.unicode) || (members ≠ 0 && !Atom.isMember flags (.character '-')) then
    none
  else
    some { members := ⟨members, 0⟩ }

end Unclosed

/-- The set that is being read, and the sets around it from the inside out. -/
structure State where
  set : Unclosed
  outer : List Unclosed := []
  deriving DecidableEq, Repr

/-- What is left to be read of the sets behind a part, or the depth of the
    outermost set if the part closes it. -/
def State.next? (flags : Flags) (state : State) : Part → Option (State ⊕ Nat)
  | .named isNegated =>
    if isNamed flags isNegated then some (.inl { state with set := state.set.add 0 }) else none
  | .opening isNegated members =>
    (Unclosed.start? flags isNegated members).map fun set =>
      .inl ⟨set, state.set :: state.outer⟩
  | .closing =>
    match state.outer with
    | [] => some (.inr (state.set.depth + 1))
    | set :: outer => some (.inl ⟨set.add (state.set.depth + 1), outer⟩)
  | .operator => some (.inl { state with set := { left := some state.set.depth } })
  | .member atom =>
    if atom.isMember flags then some (.inl { state with set := state.set.add 0 }) else none
  | .range first last =>
    match first.character?, last.character? with
    | some least, some greatest =>
      if first.isMember flags && last.isMember flags && least ≤ greatest then
        some (.inl { state with set := state.set.add 0 })
      else
        none
    | _, _ => none

/-- Takes a set of known members and gives its depth. -/
def read (flags : Flags) : Reader Nat := do
  let (isNegated, members) ← opening flags
  let set ← Unclosed.start? flags isNegated members
  stepwise (fun state => do state.next? flags (← part flags)) { set := set : State }

end CharacterSet

end Pattern

end CheckPlan
