import CheckPlan.Text.Basic

namespace CheckPlan

namespace Toml

/-- How a table came about. -/
inductive Origin
  /-- Written in braces. Nothing may be added to it. -/
  | inline
  /-- Named by a dotted key. Dotted keys may add to it. -/
  | dotted
  /-- Named on the way to the table of a header, which may still have a header
      of its own. -/
  | passed
  /-- Named by a header. -/
  | header
  deriving DecidableEq, Repr

/-- A value of a document. Of numbers with a fraction and of dates and times
    the literal is kept. -/
inductive Value
  | string (text : Text)
  | boolean (value : Bool)
  | integer (value : Int)
  | float (literal : Text)
  | dateTime (literal : Text)
  /-- An array, and whether headers in double brackets write it. -/
  | array (headed : Bool) (items : List Value)
  | table (origin : Origin) (entries : List (Text × Value))
  deriving Repr

/-- The entries of a table, in the order in which their keys came up. -/
abbrev Entries := List (Text × Value)

namespace Entries

/-- The entries with the value under a key changed, or with the key put at the
    end when it is new. The change is given the present value, and may refuse. -/
def change (key : Text) (change? : Option Value → Option Value) : Entries → Option Entries
  | [] => (change? none).map fun value => [(key, value)]
  | entry :: rest =>
    if entry.1 = key then
      (change? (some entry.2)).map fun value => (key, value) :: rest
    else
      (change key change? rest).map (entry :: ·)

/-- The entries with a new key. -/
def add (key : Text) (value : Value) : Entries → Option Entries :=
  change key fun
    | none => some value
    | some _ => none

/-- The entries with a value under a dotted key. The parts before the last one
    name tables, which may be new or made by dotted keys. -/
def addDotted (key : Text) (value : Value) : List Text → Entries → Option Entries
  | [] => add key value
  | part :: parts =>
    change part fun
      | none => (addDotted key value parts []).map (.table .dotted)
      | some (.table .dotted inner) =>
        (addDotted key value parts inner).map (.table .dotted)
      | some _ => none

/-- The entries with a change made to the table at a path of keys. Tables on
    the way may be new, and an array that headers write stands for its last
    table. -/
def changeAt (change? : Entries → Option Entries) : List Text → Entries → Option Entries
  | [], entries => change? entries
  | key :: path, entries =>
    entries.change key fun
      | none => (changeAt change? path []).map (.table .passed)
      | some (.table origin inner) =>
        if origin = .inline then none
        else (changeAt change? path inner).map (.table origin)
      | some (.array true items) =>
        match items.getLast? with
        | some (.table origin inner) =>
          (changeAt change? path inner).map fun changed =>
            .array true (items.dropLast ++ [.table origin changed])
        | _ => none
      | some _ => none

/-- The entries with the table that a header names. It must be new, or have
    been passed on the way to another one. -/
def openTable (key : Text) : Entries → Option Entries :=
  change key fun
    | none => some (.table .header [])
    | some (.table .passed inner) => some (.table .header inner)
    | some _ => none

/-- The entries with one more table in the array that a header in double
    brackets names. -/
def openItem (key : Text) : Entries → Option Entries :=
  change key fun
    | none => some (.array true [.table .header []])
    | some (.array true items) => some (.array true (items ++ [.table .header []]))
    | some _ => none

end Entries

end Toml

end CheckPlan
