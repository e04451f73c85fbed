import CheckPlan.Files.Access
import CheckPlan.Output.Header
import CheckPlan.Toml.Document

namespace CheckPlan

/-- What a settings file gives. What it does not give keeps its default. -/
structure Preferences where
  catalog : Option Text := none
  assignments : Option Text := none
  output : Option Text := none
  generator : Option Text := none
  timestamp : Option Bool := none
  notice : List Text := []
  deriving DecidableEq, Repr

namespace Preferences

open Toml

/-- The values of named fields. They are given as a table that has no other
    keys, or as an array of the values in the order of the names. Of an array
    the first `required` values must be there, and values behind the last name
    are left alone. -/
def fields? (names : List Text) (required : Nat) : Value → Option (Text → Option Value)
  | .table _ entries =>
    if entries.all fun entry => names.contains entry.1 then
      some fun name => entries.lookup name
    else
      none
  | .array _ items =>
    if required ≤ items.length then
      some fun name => (names.zip items).lookup name
    else
      none
  | _ => none

/-- The text of a string. -/
def text? : Value → Option Text
  | .string text => some text
  | _ => none

/-- The truth value of a boolean. -/
def boolean? : Value → Option Bool
  | .boolean value => some value
  | _ => none

/-- The texts of an array of strings. -/
def texts? : Value → Option (List Text)
  | .array _ items => items.mapM text?
  | _ => none

/-- What a field holds, if it is there. A field that holds something else makes
    the document unusable. -/
def given {α : Type} (read : Value → Option α) : Option Value → Option (Option α)
  | none => some none
  | some value => (read value).map some

/-- The names of the fields that give paths. -/
def pathNames : List Text :=
  ["catalog".toList, "assignments".toList, "output".toList]

/-- The names of the fields that give header options. -/
def headerNames : List Text :=
  ["generator".toList, "timestamp".toList, "notice".toList]

/-- What a document gives. It has no keys but `paths` and `header`. -/
def ofEntries? (entries : Entries) : Option Preferences := do
  let sections ← fields? ["paths".toList, "header".toList] 2 (.table .header entries)
  let unset : Value := .table .inline []
  let paths ← fields? pathNames 3 ((sections "paths".toList).getD unset)
  let header ← fields? headerNames 2 ((sections "header".toList).getD unset)
  return {
    catalog := ← given text? (paths "catalog".toList)
    assignments := ← given text? (paths "assignments".toList)
    output := ← given text? (paths "output".toList)
    generator := ← given text? (header "generator".toList)
    timestamp := ← given boolean? (header "timestamp".toList)
    notice := (← given texts? (header "notice".toList)).getD [] }

/-- What the text of a settings file gives, if it is well formed. -/
def parse? (source : Text) : Option Preferences :=
  (Toml.parse? source).bind ofEntries?

end Preferences

/-- The paths of the files of a run, and the options of the header. -/
structure Settings where
  catalog : Path := "checks.cfg".toList
  assignments : Path := "hosts.cfg".toList
  output : Path := "services.cfg".toList
  header : HeaderOptions := {}
  deriving DecidableEq, Repr

namespace Settings

/-- Why settings cannot be loaded. A text that is no document of settings comes
    with what the reader of TOML says about it. -/
inductive Failure
  | unreadable (error : FileError)
  | malformed (complaint : String)
  deriving DecidableEq, Repr

/-- What is said about the failure. -/
def Failure.message : Failure → String
  | .unreadable error => s!"Failed to read settings file: {error.message}"
  | .malformed complaint => s!"Failed to parse settings TOML: {complaint}"

/-- The settings with what was given in place of the defaults. -/
def ofPreferences (preferences : Preferences) : Settings :=
  let default : Settings := {}
  { catalog := preferences.catalog.getD default.catalog
    assignments := preferences.assignments.getD default.assignments
    output := preferences.output.getD default.output
    header :=
      { generator := preferences.generator.getD default.header.generator
        timestamp := preferences.timestamp.getD default.header.timestamp
        notice := preferences.notice } }

/-- The settings that the text of a settings file gives. The reader of TOML has
    its own words for each text that it refuses: they are given as `complaint`. -/
def parse (complaint : Text → String) (source : Text) : Except Failure Settings :=
  match Preferences.parse? source with
  | some preferences => .ok (ofPreferences preferences)
  | none => .error (.malformed (complaint source))

/-- The settings that a file gives. -/
def load {m : Type → Type} [Monad m] [FileAccess m] (complaint : Text → String) (path : Path) :
    m (Except Failure Settings) := do
  match ← FileAccess.read path with
  | .ok source => return parse complaint source
  | .error error => return .error (.unreadable error)

end Settings

end CheckPlan
