namespace CheckPlan

namespace Pattern

/-- Parts that stand side by side: their number, and the depth of the deepest.
    What has no parts has the depth zero. -/
structure Siblings where
  count : Nat := 0
  deepest : Nat := 0
  deriving DecidableEq, Repr

namespace Siblings

/-- One more part, of the given depth. -/
def add (siblings : Siblings) (depth : Nat) : Siblings :=
  ⟨siblings.count + 1, max siblings.deepest depth⟩

/-- The depth of all together. A part that stands alone is nested no deeper. -/
def depth (siblings : Siblings) : Nat :=
  if siblings.count ≤ 1 then siblings.deepest else siblings.deepest + 1

end Siblings

end Pattern

end CheckPlan
