import CheckPlan.Proofs.CommandLine.Layers

namespace CheckPlan.CommandLine

open FileView Run.Request

section Ends

variable {σ : Type} [FileAccess (StateM σ)] [FileView σ]

/-- A request is carried out: its run decides on the exit status and on the files,
    and at most the output is written. -/
structure CarriesOut (files : σ) (request : Run.Request) (execution : Execution) (after : σ) :
    Prop where
  ran : after = request.filesAfter files
  failed : ∀ error, request.resultIn files = .error error →
    execution.status = 1 ∧ execution.stderr = failure error ∧ after = files
  succeeded : ∀ summary, request.resultIn files = .ok summary →
    execution.status = 0 ∧ execution.stderr = success request.output summary
  dry_run : request.dryRun = true → after = files
  written : ∀ summary, request.resultIn files = .ok summary → request.dryRun = false →
    ∀ time, request.rendering.generatedAt = some time →
      ∃ file below, leadsTo? files request.output = some file ∧
        Replaces files after file (request.outputAt below time)

/-- Two executions end alike. Each leaves the files as they were, or each writes the
    same output with its own stamp, and the same files when no stamp is wanted. -/
structure AlikeButStamp (complaint : Text → String) (options : Options) (files : σ)
    (firstTime secondTime : Text) (first second : Execution × σ) : Prop where
  status : first.1.status = second.1.status
  stdout : first.1.stdout = second.1.stdout
  stderr : first.1.stderr = second.1.stderr
  unstamped : ∀ preferences, options.preferencesIn complaint files = .ok preferences →
    ¬ options.WritesTime preferences → first.2 = second.2
  stamped : first.2 = files ∧ second.2 = files ∨
    ∃ preferences request file below, options.preferencesIn complaint files = .ok preferences ∧
      Layered options preferences firstTime request ∧
      leadsTo? files request.output = some file ∧
      Replaces files first.2 file (request.outputAt below firstTime) ∧
      Replaces files second.2 file (request.outputAt below secondTime)

/-- What a command line that can be read comes to, at every time and with every log
    filter. -/
structure Obeyed (complaints : Complaints) (arguments : List Text) (options : Options)
    (files : σ) : Prop where
  settings_unloadable : ∀ path error,
    options.preferencesIn complaints.settings files = .error (path, error) → ∀ surroundings,
      (executeIn complaints files surroundings arguments).1.status = 1 ∧
        (executeIn complaints files surroundings arguments).1.stderr = unloadable path error ∧
        (executeIn complaints files surroundings arguments).2 = files
  carried_out : ∀ preferences, options.preferencesIn complaints.settings files = .ok preferences →
    ∀ surroundings, ∃ request, Layered options preferences surroundings.time request ∧
      CarriesOut files request (executeIn complaints files surroundings arguments).1
        (executeIn complaints files surroundings arguments).2
  clock_free : ∀ first second : Surroundings,
    AlikeButStamp complaints.settings options files first.time second.time
      (executeIn complaints files first arguments) (executeIn complaints files second arguments)

end Ends

section ClockFree

variable {σ : Type} [FileAccess (StateM σ)] [FileView σ] [LawfulFiles σ] [AcceptsAnyText σ]
variable {complaint : Text → String} {files : σ} {request : Run.Request} {options : Options}

omit [FileView σ] [LawfulFiles σ] [AcceptsAnyText σ] in
theorem ofRun_of_error {error : Run.Failure} (hresult : request.resultIn files = .error error) :
    Execution.ofRun request (request.runIn files).1 =
      ⟨1, "", failure error, (request.runIn files).1.log⟩ := by
  rw [resultIn] at hresult
  rw [Execution.ofRun, hresult]

omit [FileView σ] [LawfulFiles σ] [AcceptsAnyText σ] in
theorem ofRun_of_ok {summary : Run.Summary} (hresult : request.resultIn files = .ok summary) :
    Execution.ofRun request (request.runIn files).1 =
      ⟨0, "", success request.output summary, (request.runIn files).1.log⟩ := by
  rw [resultIn] at hresult
  rw [Execution.ofRun, hresult]

/-- What is said about success does not tell the size of the output. -/
private theorem success_bytes (output : Path) (hosts invocations first second : Nat)
    (written : Bool) :
    success output ⟨hosts, invocations, first, written⟩ =
      success output ⟨hosts, invocations, second, written⟩ := by
  rw [success, success]

private theorem carriesOut_atTime (request : Run.Request) (files : σ) (time : Text)
    (log : List Event) :
    CarriesOut files (request.atTime time)
      { Execution.ofRun (request.atTime time) ((request.atTime time).runIn files).1 with log := log }
      ((request.atTime time).filesAfter files) where
  ran := rfl
  failed error hresult := by
    rw [ofRun_of_error hresult]
    exact ⟨rfl, rfl, filesAfter_of_resultIn_eq_error hresult⟩
  succeeded summary hresult := by
    rw [ofRun_of_ok hresult]
    exact ⟨rfl, rfl⟩
  dry_run := filesAfter_of_dryRun
  written summary hresult hdry written htime := by
    obtain rfl : time = written := Option.some.inj htime
    rcases request.fails_or_succeeds_atTime files with ⟨error, hfails⟩ | ⟨plan, below, hsucceeds⟩
    · cases (hfails time).symm.trans hresult
    · obtain ⟨file, hleads, hreplaces⟩ := hsucceeds.exists_replaces hdry
      exact ⟨file, below, hleads, hreplaces time⟩

private theorem alikeButStamp_atTime {preferences : Preferences}
    (hsettings : options.preferencesIn complaint files = .ok preferences)
    (firstTime secondTime : Text) (firstLog secondLog : List Event)
    (hlayered : ∀ time, Layered options preferences time (request.atTime time)) :
    AlikeButStamp complaint options files firstTime secondTime
      ({ Execution.ofRun (request.atTime firstTime) ((request.atTime firstTime).runIn files).1 with
          log := firstLog }, (request.atTime firstTime).filesAfter files)
      ({ Execution.ofRun (request.atTime secondTime) ((request.atTime secondTime).runIn files).1 with
          log := secondLog }, (request.atTime secondTime).filesAfter files) := by
  -- The run fails at both times or at neither.
  rcases request.fails_or_succeeds_atTime files with ⟨error, hfails⟩ | ⟨plan, below, hsucceeds⟩
  · have hkept (time : Text) : (request.atTime time).filesAfter files = files :=
      filesAfter_of_resultIn_eq_error (hfails time)
    rw [ofRun_of_error (hfails firstTime), ofRun_of_error (hfails secondTime), hkept, hkept]
    exact ⟨rfl, rfl, rfl, fun _ _ _ => rfl, .inl ⟨rfl, rfl⟩⟩
  · rw [ofRun_of_ok (hsucceeds.result firstTime), ofRun_of_ok (hsucceeds.result secondTime),
      atTime_output, atTime_output]
    have hstderr := success_bytes request.output plan.hostCount plan.invocationCount
      (Text.byteLength (request.outputAt below firstTime))
      (Text.byteLength (request.outputAt below secondTime))
    cases hdry : request.dryRun with
    | true =>
      have hkept (time : Text) : (request.atTime time).filesAfter files = files :=
        filesAfter_of_dryRun hdry
      rw [hkept, hkept]
      exact ⟨rfl, rfl, hstderr (!true), fun _ _ _ => rfl, .inl ⟨rfl, rfl⟩⟩
    | false =>
      refine ⟨rfl, rfl, hstderr (!false), fun given hgiven hoff => ?_, .inr ?_⟩
      · obtain rfl : preferences = given := Except.ok.inj (hsettings.symm.trans hgiven)
        have htimestamp : request.rendering.header.timestamp = false :=
          Bool.eq_false_iff.mpr fun hon => hoff ((hlayered firstTime).timestamp.mp hon)
        rw [(hsucceeds.written hdry firstTime).2, (hsucceeds.written hdry secondTime).2,
          outputAt_of_not_timestamp htimestamp]
      · obtain ⟨file, hleads, hreplaces⟩ := hsucceeds.exists_replaces hdry
        exact ⟨preferences, request.atTime firstTime, file, below, hsettings,
          hlayered firstTime, hleads, hreplaces firstTime, hreplaces secondTime⟩

/-- A command line that can be read is obeyed on all files, in whatever words what
    cannot be read is refused. -/
theorem obeyed_of_parse {arguments : List Text} (hparse : Options.parse arguments = .ok options)
    (complaints : Complaints) (files : σ) : Obeyed complaints arguments options files where
  settings_unloadable path error hsettings surroundings := by
    obtain ⟨log, hexecute⟩ := executeIn_of_parse complaints files hparse surroundings
    rw [hexecute, performIn_of_error hsettings]
    exact ⟨rfl, rfl, rfl⟩
  carried_out preferences hsettings surroundings := by
    obtain ⟨log, hexecute⟩ := executeIn_of_parse complaints files hparse surroundings
    rw [hexecute, performIn_of_ok hsettings]
    exact ⟨_, layered_request options preferences surroundings.time,
      carriesOut_atTime (options.request (Settings.ofPreferences preferences) []) files
        surroundings.time log⟩
  clock_free first second := by
    obtain ⟨firstLog, hfirst⟩ := executeIn_of_parse complaints files hparse first
    obtain ⟨secondLog, hsecond⟩ := executeIn_of_parse complaints files hparse second
    rw [hfirst, hsecond]
    cases hsettings : options.preferencesIn complaints.settings files with
    | error unloaded =>
      obtain ⟨path, error⟩ := unloaded
      rw [performIn_of_error hsettings, performIn_of_error hsettings]
      exact ⟨rfl, rfl, rfl, fun _ _ _ => rfl, .inl ⟨rfl, rfl⟩⟩
    | ok preferences =>
      rw [performIn_of_ok hsettings, performIn_of_ok hsettings]
      let request := options.request (Settings.ofPreferences preferences) []
      have hlayered (time : Text) : Layered options preferences time (request.atTime time) :=
        layered_request options preferences time
      exact alikeButStamp_atTime hsettings first.time second.time firstLog secondLog hlayered

end ClockFree

/-- The command line puts the output elsewhere than the settings do. The stamps are
    all that two executions write differently. -/
theorem obeyed_of_parse_overriding :
    let settings := "[paths]\noutput = 'y'\n[header]\ngenerator = 'g'\n".toList
    let withSettings := FileTree.empty.create ['s'] (.file (.text settings))
    let withCatalog := withSettings.create "checks.cfg".toList (.file (.text "$a\nrun\n".toList))
    let tree := withCatalog.create "hosts.cfg".toList (.file (.text "h $a\n".toList))
    let arguments := ["--config".toList, ['s'], "-o".toList, ['x']]
    let complaints : Complaints := ⟨fun _ => "not a document of settings", fun _ => "error"⟩
    let first := executeIn complaints tree ⟨none, ['1']⟩ arguments
    let second := executeIn complaints tree ⟨none, ['2']⟩ arguments
    Options.parse arguments = .ok { config := some ['s'], output := some ['x'] } ∧
      first.1.status = 0 ∧ second.1.status = 0 ∧
      ∃ below,
        first.2.contentAt? [['x']] = some (.text ("# Generated by g on 1".toList ++ below)) ∧
        second.2.contentAt? [['x']] = some (.text ("# Generated by g on 2".toList ++ below)) := by
  intro settings withSettings withCatalog tree arguments complaints first second
  have hparse : Options.parse arguments = .ok { config := some ['s'], output := some ['x'] } := rfl
  have halike := (obeyed_of_parse hparse complaints tree).clock_free ⟨none, ['1']⟩ ⟨none, ['2']⟩
  have hstatus : first.1.status = 0 := by decide +kernel
  have hsome : (first.2.contentAt? [['x']]).isSome = true := by decide +kernel
  have hgiven :
      Options.preferencesIn { config := some ['s'], output := some ['x'] } complaints.settings tree =
        .ok { output := some ['y'], generator := some ['g'] } := by
    have hpreferences : Preferences.parse? settings =
        some { output := some ['y'], generator := some ['g'] } := by decide +kernel
    have hread : (readIn tree ['s']).1 = .ok settings := rfl
    simp only [Options.preferencesIn, hread, hpreferences]
  refine ⟨hparse, hstatus, halike.status.symm.trans hstatus, ?_⟩
  obtain ⟨preferences, request, file, below, hsettings, hlayered, hleads, hfirst, hsecond⟩ :=
    halike.stamped.resolve_left fun hkept => by
      rw [show first.2 = tree from hkept.1] at hsome
      cases hsome
  obtain rfl := Except.ok.inj (hsettings.symm.trans hgiven)
  have houtput : request.output = ['x'] := hlayered.output
  have htimestamp : request.rendering.header.timestamp = true :=
    hlayered.timestamp.mpr ⟨by decide, rfl⟩
  have hopening : Header.opening request.rendering.header.generator = "# Generated by g".toList :=
    congrArg Header.opening hlayered.generator
  have hone : request.outputAt below ['1'] = "# Generated by g on 1".toList ++ below := by
    rw [outputAt, hopening, htimestamp]
    rfl
  have htwo : request.outputAt below ['2'] = "# Generated by g on 2".toList ++ below := by
    rw [outputAt, hopening, htimestamp]
    rfl
  have hplace : tree.placeOf? ['x'] = some [['x']] := by decide +kernel
  obtain rfl : [['x']] = file := by
    rw [houtput] at hleads
    exact Option.some.inj (hplace.symm.trans hleads)
  rw [hone] at hfirst
  rw [htwo] at hsecond
  exact ⟨below, hfirst.content, hsecond.content⟩

end CheckPlan.CommandLine
