import CheckPlan.Log.Directive

namespace CheckPlan

/-- The directives of a log filter, in the order in which they were given. -/
abbrev LogFilter := List Directive

namespace LogFilter

/-- The texts between commas. -/
def pieces : Text → List Text
  | [] => [[]]
  | c :: rest =>
    if c = ',' then
      [] :: pieces rest
    else
      match pieces rest with
      | [] => [[c]]
      | piece :: more => (c :: piece) :: more

/-- The filter of a text, if each of its directives is one. Empty ones are left
    out. -/
def parse? (text : Text) : Option LogFilter :=
  ((pieces text).filter (· ≠ [])).mapM Directive.parse?

/-- The directive that decides on an event: of those that select it the one
    that no later one takes the place of. -/
def deciding? (filter : LogFilter) (event : Event) : Option Directive :=
  (filter.filter fun directive => directive.selects event).foldl (fun best directive =>
    match best with
    | none => some directive
    | some known => if known.yieldsTo directive then some directive else some known) none

/-- Whether the filter lets an event through. -/
def admits (filter : LogFilter) (event : Event) : Bool :=
  match filter.deciding? event with
  | some directive => directive.threshold.admits event.level
  | none => false

/-- The filter that lets everything through up to a level. -/
def upTo (level : Level) : LogFilter :=
  [{ threshold := some level }]

/-- The filter that a number of requests for more output asks for. -/
def ofVerbosity : Nat → LogFilter
  | 0 => upTo .warn
  | 1 => upTo .info
  | 2 => upTo .debug
  | _ => upTo .trace

/-- The filter that is in force: the given text, unless there is none or it is
    no filter, and else the one for the verbosity. -/
def select (given : Option Text) (verbosity : Nat) : LogFilter :=
  (given.bind parse?).getD (ofVerbosity verbosity)

end LogFilter

end CheckPlan
