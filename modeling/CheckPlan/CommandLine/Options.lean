import CheckPlan.Text.Basic

namespace CheckPlan

namespace CommandLine

/-- What the command line asks for. -/
structure Options where
  output : Option Text := none
  assignments : Option Text := none
  catalog : Option Text := none
  config : Option Text := none
  noTimestamp : Bool := false
  dryRun : Bool := false
  verbosity : Nat := 0
  deriving DecidableEq, Repr

/-- Why the options are not complete. -/
inductive Stop
  | help
  | misuse
  deriving DecidableEq, Repr

/-- The options that take a value. -/
inductive ValueOption
  | output
  | assignments
  | catalog
  | config
  deriving DecidableEq, Repr

/-- The options that take none. -/
inductive Flag
  | noTimestamp
  | dryRun
  | verbose
  | help
  deriving DecidableEq, Repr

/-- An option, of one kind or the other. -/
inductive Switch
  | value (option : ValueOption)
  | flag (flag : Flag)
  deriving DecidableEq, Repr

namespace Switch

/-- The option of a letter behind one hyphen. -/
def ofLetter? : Char → Option Switch
  | 'o' => some (.value .output)
  | 'a' => some (.value .assignments)
  | 'c' => some (.value .catalog)
  | 'n' => some (.flag .dryRun)
  | 'v' => some (.flag .verbose)
  | 'h' => some (.flag .help)
  | _ => none

/-- The option of a word behind two hyphens. Words are not shortened. -/
def ofWord? (word : Text) : Option Switch :=
  let words : List (String × Switch) :=
    [("output", .value .output), ("assignments", .value .assignments),
      ("catalog", .value .catalog), ("config", .value .config),
      ("no-timestamp", .flag .noTimestamp), ("dry-run", .flag .dryRun),
      ("verbose", .flag .verbose), ("help", .flag .help)]
  (words.find? fun entry => entry.1.toList = word).map Prod.snd

end Switch

namespace Options

/-- The options with a value set. A value is not empty, and an option is given
    once. -/
def setValue (options : Options) (option : ValueOption) (value : Text) :
    Except Stop Options :=
  if value = [] then
    .error .misuse
  else
    match option with
    | .output =>
      if options.output.isSome then .error .misuse
      else .ok { options with output := some value }
    | .assignments =>
      if options.assignments.isSome then .error .misuse
      else .ok { options with assignments := some value }
    | .catalog =>
      if options.catalog.isSome then .error .misuse
      else .ok { options with catalog := some value }
    | .config =>
      if options.config.isSome then .error .misuse
      else .ok { options with config := some value }

/-- The options with a flag set. Only verbosity may be asked for again. -/
def setFlag (options : Options) : Flag → Except Stop Options
  | .noTimestamp =>
    if options.noTimestamp then .error .misuse else .ok { options with noTimestamp := true }
  | .dryRun => if options.dryRun then .error .misuse else .ok { options with dryRun := true }
  | .verbose => .ok { options with verbosity := options.verbosity + 1 }
  | .help => .error .help

/-- The options after a bundle of letters, and the option that still waits for
    its value. The rest of the bundle behind an option that takes a value is
    that value, with or without an equals sign in front. -/
def setLetters (options : Options) : Text → Except Stop (Options × Option ValueOption)
  | [] => .ok (options, none)
  | letter :: rest =>
    match Switch.ofLetter? letter with
    | none => .error .misuse
    | some (.flag flag) =>
      match options.setFlag flag with
      | .error stop => .error stop
      | .ok next => next.setLetters rest
    | some (.value option) =>
      match rest with
      | [] => .ok (options, some option)
      | '=' :: value => (options.setValue option value).map fun next => (next, none)
      | value => (options.setValue option value).map fun next => (next, none)

/-- The options after a word, which may have a value behind an equals sign, and
    the option that still waits for its value. -/
def setWord (options : Options) (text : Text) : Except Stop (Options × Option ValueOption) :=
  let word := text.takeWhile (· ≠ '=')
  match Switch.ofWord? word, text.dropWhile (· ≠ '=') with
  | none, _ => .error .misuse
  | some (.flag flag), [] => (options.setFlag flag).map fun next => (next, none)
  | some (.flag _), _ => .error .misuse
  | some (.value option), [] => .ok (options, some option)
  | some (.value option), _ :: value =>
    (options.setValue option value).map fun next => (next, none)

/-- The options after an argument, and the option that still waits for its
    value. -/
def setArgument (options : Options) (argument : Text) :
    Except Stop (Options × Option ValueOption) :=
  match argument with
  | '-' :: '-' :: word => options.setWord word
  | '-' :: letter :: letters => options.setLetters (letter :: letters)
  | _ => .error .misuse

/-- Whether an argument cannot be the value of an option in front of it: it
    looks like an option itself. -/
def isOption (argument : Text) : Bool :=
  argument.head? = some '-' && argument ≠ ['-']

/-- The options after all arguments. Two hyphens alone end the options, and
    there is nothing else to be given. -/
def parseFrom (options : Options) (waiting : Option ValueOption) :
    List Text → Except Stop Options
  | [] => if waiting.isSome then .error .misuse else .ok options
  | argument :: rest =>
    match waiting with
    | some option =>
      if isOption argument then
        .error .misuse
      else
        match options.setValue option argument with
        | .error stop => .error stop
        | .ok next => next.parseFrom none rest
    | none =>
      if argument = ['-', '-'] then
        if rest = [] then .ok options else .error .misuse
      else
        match options.setArgument argument with
        | .error stop => .error stop
        | .ok (next, nowWaiting) => next.parseFrom nowWaiting rest

/-- The options that arguments give. The arguments are taken from left to right,
    and the first one that cannot be used, or asks for help, ends the reading. -/
def parse (arguments : List Text) : Except Stop Options :=
  parseFrom {} none arguments

end Options

end CommandLine

end CheckPlan
