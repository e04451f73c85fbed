import CheckPlan.Text.Basic

namespace CheckPlan

/-- The bytes from `start` up to, but not including, `stop`. -/
structure Span where
  start : Nat
  stop : Nat
  deriving DecidableEq, Repr

/-- The text at a span, if both ends are character boundaries of the source. -/
def Text.slice? (source : Text) (span : Span) : Option Text :=
  (Text.dropBytes? span.start source).bind (Text.takeBytes? (span.stop - span.start))

end CheckPlan
