import CheckPlan.Proofs.Run.Parts

namespace CheckPlan.Run.Request

open FileView

variable {σ : Type} [FileAccess (StateM σ)] [FileView σ]

/-- How a run ends that has an output to write. -/
structure Finishes (request : Request) (files : σ) (plan : Plan) (output : Text) : Prop where
  dry_run : request.dryRun = true →
    request.resultIn files =
      .ok ⟨plan.hostCount, plan.invocationCount, Text.byteLength output, false⟩
  unwritable : request.dryRun = false →
    ∀ error, (writeIn files request.output output).1 = .error error →
      request.resultIn files = .error (.write request.output error)
  written : request.dryRun = false → (writeIn files request.output output).1 = .ok () →
    request.resultIn files =
        .ok ⟨plan.hostCount, plan.invocationCount, Text.byteLength output, true⟩ ∧
      ∃ file, leadsTo? files request.output = some file ∧
        Replaces files (request.filesAfter files) file output

/-- What a run does, case by case: the first thing that fails decides, nothing
    changes without a result that says that the output is written, a dry run
    says what a run would say, and a run that does not write over a source can be
    repeated, since a file that was written can be written again. -/
structure AllOrNothing (request : Request) (files : σ) : Prop where
  catalog_unreadable : ∀ error, (readIn files request.catalog).1 = .error error →
    request.resultIn files = .error (.read request.catalog error)
  assignments_unreadable : ∀ catalogSource error,
    (readIn files request.catalog).1 = .ok catalogSource →
    (readIn files request.assignments).1 = .error error →
      request.resultIn files = .error (.read request.assignments error)
  catalog_invalid : ∀ catalogSource assignmentSource problems,
    request.Reads files catalogSource assignmentSource →
    Catalog.parse catalogSource = .error problems →
      request.resultIn files = .error (.invalid request.catalog catalogSource problems)
  assignments_invalid : ∀ catalogSource assignmentSource catalog problems,
    request.Reads files catalogSource assignmentSource →
    Catalog.parse catalogSource = .ok catalog →
    catalog.resolve assignmentSource = .error problems →
      request.resultIn files = .error (.invalid request.assignments assignmentSource problems)
  sources_held : ∀ catalogSource assignmentSource,
    request.Reads files catalogSource assignmentSource →
      HoldsText files request.catalog catalogSource ∧
        HoldsText files request.assignments assignmentSource
  accepted : ∀ catalogSource assignmentSource catalog plan,
    request.Reads files catalogSource assignmentSource →
    Catalog.parse catalogSource = .ok catalog → catalog.resolve assignmentSource = .ok plan →
      ∃ output, CheckPlan.compile catalogSource assignmentSource request.rendering = .ok output ∧
        request.Finishes files plan output
  unchanged_on_failure : ∀ failure, request.resultIn files = .error failure →
    request.filesAfter files = files
  unchanged_on_dry_run : request.dryRun = true → request.filesAfter files = files
  dry_run_iff :
    (∃ summary, { request with dryRun := true }.resultIn files = .ok summary) ↔
      (∃ summary, { request with dryRun := false }.resultIn files = .ok summary) ∨
        ∃ error, { request with dryRun := false }.resultIn files =
          .error (.write request.output error)
  same_summary : ∀ dry real, { request with dryRun := true }.resultIn files = .ok dry →
    { request with dryRun := false }.resultIn files = .ok real →
      dry.written = false ∧ real = { dry with written := true }
  repeatable :
    (∀ file, leadsTo? files request.output = some file →
      leadsTo? files request.catalog ≠ some file ∧
        leadsTo? files request.assignments ≠ some file) →
    (request.runIn (request.filesAfter files)).1 = (request.runIn files).1 ∧
      SameFiles (request.filesAfter (request.filesAfter files)) (request.filesAfter files)

variable [LawfulFiles σ] {request : Request} {files : σ}

theorem runIn_of_prepareIn_eq_error {outcome : Outcome}
    (hprepare : request.prepareIn files = .error outcome) :
    request.runIn files = (outcome, files) := by
  rw [runIn_eq, hprepare]

theorem runIn_of_prepareIn_eq_ok {prepared : Prepared}
    (hprepare : request.prepareIn files = .ok prepared) :
    request.runIn files = request.finishIn files prepared := by
  rw [runIn_eq, hprepare]

/-- Nothing changes unless an output is written. -/
theorem filesAfter_eq_or (request : Request) (files : σ) :
    request.filesAfter files = files ∨
      ∃ prepared, request.prepareIn files = .ok prepared ∧ request.dryRun = false ∧
        (writeIn files request.output prepared.output).1 = .ok () := by
  cases hprepare : request.prepareIn files with
  | error outcome =>
    exact .inl (by rw [filesAfter, runIn_of_prepareIn_eq_error hprepare])
  | ok prepared =>
    rw [filesAfter, runIn_of_prepareIn_eq_ok hprepare]
    cases hdry : request.dryRun with
    | true => exact .inl (by rw [finishIn_of_dryRun hdry])
    | false =>
      cases hwrite : (writeIn files request.output prepared.output).1 with
      | error error => exact .inl (by rw [finishIn_of_write_eq_error hdry hwrite])
      | ok done => exact .inr ⟨prepared, rfl, rfl, hwrite⟩

theorem filesAfter_of_resultIn_eq_error {failure : Failure}
    (hresult : request.resultIn files = .error failure) : request.filesAfter files = files := by
  rcases filesAfter_eq_or request files with hkept | ⟨prepared, hprepare, hdry, hwrite⟩
  · exact hkept
  · rw [resultIn, runIn_of_prepareIn_eq_ok hprepare, finishIn_of_write_eq_ok hdry hwrite] at hresult
    cases hresult

theorem filesAfter_of_dryRun (hdry : request.dryRun = true) :
    request.filesAfter files = files := by
  rcases filesAfter_eq_or request files with hkept | ⟨-, -, hnot, -⟩
  · exact hkept
  · cases hdry.symm.trans hnot

theorem resultIn_of_dryRun {prepared : Prepared} (hdry : request.dryRun = true)
    (hprepare : request.prepareIn files = .ok prepared) :
    request.resultIn files = .ok prepared.summary := by
  rw [resultIn, runIn_of_prepareIn_eq_ok hprepare, finishIn_of_dryRun hdry]

/-- A run that is not dry ends as its write does. -/
theorem resultIn_of_not_dryRun {prepared : Prepared} (hdry : request.dryRun = false)
    (hprepare : request.prepareIn files = .ok prepared) :
    request.resultIn files =
      match (writeIn files request.output prepared.output).1 with
      | .ok () => .ok { prepared.summary with written := true }
      | .error error => .error (.write request.output error) := by
  rw [resultIn, runIn_of_prepareIn_eq_ok hprepare]
  cases hwrite : (writeIn files request.output prepared.output).1 with
  | ok done => rw [finishIn_of_write_eq_ok hdry hwrite]
  | error error => rw [finishIn_of_write_eq_error hdry hwrite]

/-- A run on accepted sources has an output, and ends with it. -/
theorem exists_finishes {catalogSource assignmentSource : Text} {catalog : Catalog} {plan : Plan}
    (hreads : request.Reads files catalogSource assignmentSource)
    (hparse : Catalog.parse catalogSource = .ok catalog)
    (hresolve : catalog.resolve assignmentSource = .ok plan) :
    ∃ output, CheckPlan.compile catalogSource assignmentSource request.rendering = .ok output ∧
      request.Finishes files plan output := by
  have haccept := @Compilation.ofSources_eq_ok_iff catalogSource assignmentSource ⟨catalog, plan⟩
  refine ⟨_, compile_eq_ok (haccept.mpr ⟨hparse, hresolve⟩) request.rendering, ?_⟩
  obtain ⟨log, hprepare⟩ := prepareIn_eq_ok_of_compile hreads (compile_of_accepted hparse hresolve)
  refine ⟨fun hdry => ?_, fun hdry error hwrite => ?_, fun hdry hwrite => ⟨?_, ?_⟩⟩
  · rw [resultIn_of_dryRun hdry hprepare]
  · rw [resultIn_of_not_dryRun hdry hprepare, hwrite]
  · rw [resultIn_of_not_dryRun hdry hprepare, hwrite]
  · rw [filesAfter, runIn_of_prepareIn_eq_ok hprepare, finishIn_of_write_eq_ok hdry hwrite]
    exact LawfulFiles.write_replaces files request.output _ hwrite

/-- A run that fails before it writes fails alike when it is dry. -/
theorem exists_resultIn_eq_error {outcome : Outcome}
    (hprepare : request.prepareIn files = .error outcome) :
    ∃ failure, (∀ dryRun, { request with dryRun := dryRun }.resultIn files = .error failure) ∧
      ∀ path error, failure ≠ .write path error := by
  obtain ⟨failure, hfailure, hnot⟩ := exists_of_prepareIn_eq_error hprepare
  refine ⟨failure, fun dryRun => ?_, hnot⟩
  rw [← prepareIn_dryRun request files dryRun] at hprepare
  rw [resultIn, runIn_of_prepareIn_eq_error hprepare, hfailure]

/-- A dry run succeeds where a run gets as far as the write. -/
theorem dryRun_ok_iff (request : Request) (files : σ) :
    (∃ summary, { request with dryRun := true }.resultIn files = .ok summary) ↔
      (∃ summary, { request with dryRun := false }.resultIn files = .ok summary) ∨
        ∃ error, { request with dryRun := false }.resultIn files =
          .error (.write request.output error) := by
  cases hprepare : request.prepareIn files with
  | error outcome =>
    obtain ⟨failure, hresult, hnot⟩ := exists_resultIn_eq_error hprepare
    simp only [hresult, reduceCtorEq, exists_false, false_or, Except.error.injEq, hnot]
  | ok prepared =>
    rw [@resultIn_of_dryRun σ _ _ _ { request with dryRun := true } files prepared rfl hprepare,
      @resultIn_of_not_dryRun σ _ _ _ { request with dryRun := false } files prepared rfl hprepare]
    cases (writeIn files request.output prepared.output).1 with
    | ok done => simp
    | error error => simp

private theorem summary_of_dryRun {dry real : Summary}
    (hdry : { request with dryRun := true }.resultIn files = .ok dry)
    (hreal : { request with dryRun := false }.resultIn files = .ok real) :
    dry.written = false ∧ real = { dry with written := true } := by
  cases hprepare : request.prepareIn files with
  | error outcome =>
    obtain ⟨failure, hresult, -⟩ := exists_resultIn_eq_error hprepare
    cases (hresult true).symm.trans hdry
  | ok prepared =>
    obtain ⟨catalogSource, assignmentSource, -, hcompile⟩ := exists_of_prepareIn_eq_ok hprepare
    rw [@resultIn_of_dryRun σ _ _ _ { request with dryRun := true } files prepared rfl hprepare,
      Except.ok.injEq] at hdry
    rw [@resultIn_of_not_dryRun σ _ _ _ { request with dryRun := false } files prepared rfl
      hprepare] at hreal
    rw [← hdry]
    split at hreal
    · exact ⟨not_written_of_compile_eq_ok hcompile, (Except.ok.inj hreal).symm⟩
    · cases hreal

/-- A run that does not write over a source can be repeated. -/
theorem runIn_filesAfter
    (hapart : ∀ file, leadsTo? files request.output = some file →
      leadsTo? files request.catalog ≠ some file ∧
        leadsTo? files request.assignments ≠ some file) :
    (request.runIn (request.filesAfter files)).1 = (request.runIn files).1 ∧
      SameFiles (request.filesAfter (request.filesAfter files)) (request.filesAfter files) := by
  rcases filesAfter_eq_or request files with hkept | ⟨prepared, hprepare, hdry, hwrite⟩
  · rw [hkept, hkept]
    exact ⟨rfl, SameFiles.refl files⟩
  · obtain ⟨catalogSource, assignmentSource, hreads, -⟩ := exists_of_prepareIn_eq_ok hprepare
    obtain ⟨file, hleads, hreplaces⟩ := LawfulFiles.write_replaces files _ _ hwrite
    obtain ⟨hcatalog, hassignments⟩ := hapart file hleads
    have hrun := (runIn_of_prepareIn_eq_ok hprepare).trans (finishIn_of_write_eq_ok hdry hwrite)
    have hafter : request.filesAfter files = (writeIn files request.output prepared.output).2 := by
      rw [filesAfter, hrun]
    rw [← hafter] at hreplaces
    have hagain : request.prepareIn (request.filesAfter files) = .ok prepared := by
      rw [prepareIn_congr hreads ⟨hreplaces.readings _ _ hcatalog hreads.catalog,
        hreplaces.readings _ _ hassignments hreads.assignments⟩, hprepare]
    have hwrite' := LawfulFiles.write_again files _ _ hwrite
    rw [← hafter] at hwrite'
    have hrun' := (runIn_of_prepareIn_eq_ok hagain).trans (finishIn_of_write_eq_ok hdry hwrite')
    obtain ⟨file', hleads', hreplaces'⟩ := LawfulFiles.write_replaces _ _ _ hwrite'
    obtain rfl : file = file' := by
      rw [hreplaces.paths, hleads] at hleads'
      exact Option.some.inj hleads'
    refine ⟨by rw [hrun, hrun'], ?_⟩
    rw [filesAfter, hrun']
    exact hreplaces.sameFiles hreplaces'

/-- In every lawful file system, whatever its paths lead to, a run does all or
    nothing. -/
theorem allOrNothing (request : Request) (files : σ) : request.AllOrNothing files where
  catalog_unreadable error hcatalog := by
    rw [resultIn, runIn_eq, prepareIn, hcatalog]
  assignments_unreadable catalogSource error hcatalog hassignments := by
    rw [resultIn, runIn_eq, prepareIn, hcatalog, hassignments]
  catalog_invalid catalogSource assignmentSource problems hreads hparse := by
    obtain ⟨log, hprepare⟩ := prepareIn_eq_error_of_compile hreads
      (compile_of_parse_eq_error hparse assignmentSource)
    rw [resultIn, runIn_of_prepareIn_eq_error hprepare]
  assignments_invalid catalogSource assignmentSource catalog problems hreads hparse hresolve := by
    obtain ⟨log, hprepare⟩ := prepareIn_eq_error_of_compile hreads
      (compile_of_resolve_eq_error hparse hresolve)
    rw [resultIn, runIn_of_prepareIn_eq_error hprepare]
  sources_held _ _ hreads :=
    ⟨LawfulFiles.read_content _ _ _ hreads.catalog,
      LawfulFiles.read_content _ _ _ hreads.assignments⟩
  accepted _ _ _ _ := exists_finishes
  unchanged_on_failure _ := filesAfter_of_resultIn_eq_error
  unchanged_on_dry_run := filesAfter_of_dryRun
  dry_run_iff := dryRun_ok_iff request files
  same_summary _ _ := summary_of_dryRun
  repeatable := runIn_filesAfter

/-- A run that writes over its catalog leaves the output of the catalog that was
    there, and the assignments. -/
theorem allOrNothing_overwriting :
    let catalogs := FileTree.empty.create ['c'] (.file (.text "$a\nrun $1\n".toList))
    let tree := catalogs.create ['a'] (.file (.text "h $a\n".toList))
    let request : Request := ⟨['c'], ['a'], ['c'], false, { header := { timestamp := false } }⟩
    ∃ output, CheckPlan.compile "$a\nrun $1\n".toList "h $a\n".toList request.rendering =
        .ok output ∧
      (request.filesAfter tree).contentAt? [['c']] = some (.text output) ∧
      (request.filesAfter tree).contentAt? [['a']] = some (.text "h $a\n".toList) := by
  intro catalogs tree request
  obtain ⟨catalog, hparse⟩ : ∃ catalog, Catalog.parse "$a\nrun $1\n".toList = .ok catalog :=
    ⟨_, rfl⟩
  obtain ⟨plan, hresolve⟩ : ∃ plan, catalog.resolve "h $a\n".toList = .ok plan := by
    cases hparse
    exact ⟨_, rfl⟩
  obtain ⟨output, hcompile, hfinishes⟩ :=
    (allOrNothing request tree).accepted _ _ _ _ ⟨rfl, rfl⟩ hparse hresolve
  obtain ⟨-, file, hleads, hreplaces⟩ := hfinishes.written rfl rfl
  obtain rfl : [['c']] = file := Option.some.inj hleads
  refine ⟨output, hcompile, hreplaces.content, ?_⟩
  have hother : ([['a']] : Place) ≠ [['c']] := by decide
  have hkept : (request.filesAfter tree).contentAt? [['a']] = tree.contentAt? [['a']] :=
    hreplaces.others [['a']] hother
  rw [hkept]
  rfl

end CheckPlan.Run.Request
