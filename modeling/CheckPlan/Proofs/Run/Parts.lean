import CheckPlan.Proofs.Files.Lawful
import CheckPlan.Run

namespace CheckPlan.Run.Request

open FileView

/-- What a run has when nothing is left but to write: the output, the summary of
    a run that does not write it, and the log. -/
structure Prepared where
  output : Text
  summary : Summary
  log : List Event

section Parts

variable {σ : Type} [FileAccess (StateM σ)]

/-- A run in a file system: what comes out of it, and the file system behind it. -/
def runIn (request : Request) (files : σ) : Outcome × σ :=
  (request.run : StateM σ Outcome) files

/-- The result of a run in a file system. -/
def resultIn (request : Request) (files : σ) : Except Failure Summary :=
  (request.runIn files).1.result

/-- The file system behind a run. -/
def filesAfter (request : Request) (files : σ) : σ :=
  (request.runIn files).2

/-- The first part of a run, up to the output. -/
def prepareIn (request : Request) (files : σ) : Except Outcome Prepared :=
  match (readIn files request.catalog).1 with
  | .error error => .error ⟨.error (.read request.catalog error), [.reading request.catalog]⟩
  | .ok catalogSource =>
    let readings : List Event := [.reading request.catalog, .reading request.assignments]
    match (readIn files request.assignments).1 with
    | .error error => .error ⟨.error (.read request.assignments error), readings⟩
    | .ok assignmentSource =>
      let log := readings ++ Event.ofCompilation catalogSource assignmentSource
      match request.compile catalogSource assignmentSource with
      | .error failure => .error ⟨.error failure, log⟩
      | .ok (output, summary) => .ok ⟨output, summary, log⟩

/-- The second part of a run, which writes what is prepared. -/
def finishIn (request : Request) (files : σ) (prepared : Prepared) : Outcome × σ :=
  if request.dryRun then
    (⟨.ok prepared.summary, prepared.log ++ [.notWritten prepared.summary.hosts]⟩, files)
  else
    match writeIn files request.output prepared.output with
    | (.error error, after) => (⟨.error (.write request.output error), prepared.log⟩, after)
    | (.ok (), after) =>
      (⟨.ok { prepared.summary with written := true },
        prepared.log ++ [.written request.output prepared.summary.bytes]⟩, after)

/-- Whether a run is dry makes no difference to its first part. -/
theorem prepareIn_dryRun (request : Request) (files : σ) (dryRun : Bool) :
    { request with dryRun := dryRun }.prepareIn files = request.prepareIn files :=
  rfl

variable [FileView σ] [LawfulFiles σ]

theorem read_eq (files : σ) (path : Path) :
    (FileAccess.read path : StateM σ (Except FileError Text)) files =
      ((readIn files path).1, files) :=
  Prod.ext rfl (LawfulFiles.read_keeps files path)

omit [FileAccess (StateM σ)] [FileView σ] [LawfulFiles σ] in
theorem bind_apply {α β : Type} (first : StateM σ α) (next : α → StateM σ β) (files : σ) :
    (first >>= next) files = next (first files).1 (first files).2 :=
  rfl

/-- A run is its two parts. -/
theorem runIn_eq (request : Request) (files : σ) :
    request.runIn files =
      match request.prepareIn files with
      | .error outcome => (outcome, files)
      | .ok prepared => request.finishIn files prepared := by
  rw [runIn, run, bind_apply, read_eq, prepareIn]
  cases (readIn files request.catalog).1 with
  | error error => rfl
  | ok catalogSource =>
    dsimp only
    rw [bind_apply, read_eq]
    cases (readIn files request.assignments).1 with
    | error error => rfl
    | ok assignmentSource =>
      dsimp only
      cases request.compile catalogSource assignmentSource with
      | error failure => rfl
      | ok prepared =>
        dsimp only [finishIn]
        by_cases hdry : request.dryRun = true
        · rw [if_pos hdry, if_pos hdry]
          rfl
        · rw [if_neg hdry, if_neg hdry, bind_apply, writeIn]
          obtain ⟨written, after⟩ :=
            (FileAccess.write request.output prepared.1 : StateM σ (Except FileError Unit)) files
          cases written <;> rfl

end Parts

section Prepared

variable {request : Request} {catalogSource assignmentSource : Text} {catalog : Catalog}

theorem compile_of_parse_eq_error {problems : List Problem}
    (hparse : Catalog.parse catalogSource = .error problems) (assignmentSource : Text) :
    request.compile catalogSource assignmentSource =
      .error (.invalid request.catalog catalogSource problems) := by
  rw [compile, Compilation.ofSources, hparse]

theorem compile_of_resolve_eq_error {problems : List Problem}
    (hparse : Catalog.parse catalogSource = .ok catalog)
    (hresolve : catalog.resolve assignmentSource = .error problems) :
    request.compile catalogSource assignmentSource =
      .error (.invalid request.assignments assignmentSource problems) := by
  simp only [compile, Compilation.ofSources, hparse, hresolve]

theorem compile_of_accepted {plan : Plan} (hparse : Catalog.parse catalogSource = .ok catalog)
    (hresolve : catalog.resolve assignmentSource = .ok plan) :
    request.compile catalogSource assignmentSource =
      .ok (Compilation.render ⟨catalog, plan⟩ request.rendering,
        ⟨plan.hostCount, plan.invocationCount,
          Text.byteLength (Compilation.render ⟨catalog, plan⟩ request.rendering), false⟩) := by
  simp only [compile, Compilation.ofSources, hparse, hresolve]

/-- Sources that cannot be used are the only reason not to have an output. -/
private theorem exists_invalid_of_compile_eq_error {failure : Failure}
    (hcompile : request.compile catalogSource assignmentSource = .error failure) :
    ∃ path source problems, failure = .invalid path source problems := by
  unfold compile at hcompile
  split at hcompile <;> cases hcompile
  · exact ⟨_, _, _, rfl⟩
  · exact ⟨_, _, _, rfl⟩

theorem not_written_of_compile_eq_ok {output : Text} {summary : Summary}
    (hcompile : request.compile catalogSource assignmentSource = .ok (output, summary)) :
    summary.written = false := by
  unfold compile at hcompile
  split at hcompile <;> cases hcompile
  rfl

variable {σ : Type} [FileAccess (StateM σ)] {files : σ}

/-- Both sources can be read. -/
structure Reads (request : Request) (files : σ) (catalogSource assignmentSource : Text) :
    Prop where
  catalog : (readIn files request.catalog).1 = .ok catalogSource
  assignments : (readIn files request.assignments).1 = .ok assignmentSource

theorem prepareIn_eq_error_of_compile {failure : Failure}
    (hreads : request.Reads files catalogSource assignmentSource)
    (hcompile : request.compile catalogSource assignmentSource = .error failure) :
    ∃ log, request.prepareIn files = .error ⟨.error failure, log⟩ := by
  simp only [prepareIn, hreads.catalog, hreads.assignments, hcompile]
  exact ⟨_, rfl⟩

theorem prepareIn_eq_ok_of_compile {output : Text} {summary : Summary}
    (hreads : request.Reads files catalogSource assignmentSource)
    (hcompile : request.compile catalogSource assignmentSource = .ok (output, summary)) :
    ∃ log, request.prepareIn files = .ok ⟨output, summary, log⟩ := by
  simp only [prepareIn, hreads.catalog, hreads.assignments, hcompile]
  exact ⟨_, rfl⟩

/-- A first part that fails does not fail for want of writing. -/
theorem exists_of_prepareIn_eq_error {outcome : Outcome}
    (hprepare : request.prepareIn files = .error outcome) :
    ∃ failure, outcome.result = .error failure ∧ ∀ path error, failure ≠ .write path error := by
  unfold prepareIn at hprepare
  split at hprepare
  · cases hprepare
    exact ⟨_, rfl, by simp⟩
  · split at hprepare
    · cases hprepare
      exact ⟨_, rfl, by simp⟩
    · split at hprepare
      · next failure hcompile =>
        cases hprepare
        obtain ⟨path, source, problems, rfl⟩ := exists_invalid_of_compile_eq_error hcompile
        exact ⟨_, rfl, by simp⟩
      · cases hprepare

/-- A first part that succeeds has read and compiled both sources. -/
theorem exists_of_prepareIn_eq_ok {prepared : Prepared}
    (hprepare : request.prepareIn files = .ok prepared) :
    ∃ catalogSource assignmentSource, request.Reads files catalogSource assignmentSource ∧
      request.compile catalogSource assignmentSource = .ok (prepared.output, prepared.summary) := by
  unfold prepareIn at hprepare
  split at hprepare
  · cases hprepare
  · next catalogSource hcatalog =>
    split at hprepare
    · cases hprepare
    · next assignmentSource hassignments =>
      split at hprepare
      · cases hprepare
      · next output summary hcompile =>
        cases hprepare
        exact ⟨catalogSource, assignmentSource, ⟨hcatalog, hassignments⟩, hcompile⟩

/-- The first part depends on what is read only. -/
theorem prepareIn_congr {later : σ} (hreads : request.Reads files catalogSource assignmentSource)
    (hlater : request.Reads later catalogSource assignmentSource) :
    request.prepareIn later = request.prepareIn files := by
  rw [prepareIn, prepareIn, hreads.catalog, hreads.assignments, hlater.catalog,
    hlater.assignments]

end Prepared

section Finished

variable {σ : Type} [FileAccess (StateM σ)] {request : Request} {files : σ} {prepared : Prepared}

theorem finishIn_of_dryRun (hdry : request.dryRun = true) :
    request.finishIn files prepared =
      (⟨.ok prepared.summary, prepared.log ++ [.notWritten prepared.summary.hosts]⟩, files) := by
  rw [finishIn, if_pos hdry]

theorem finishIn_of_write_eq_ok (hdry : request.dryRun = false)
    (hwrite : (writeIn files request.output prepared.output).1 = .ok ()) :
    request.finishIn files prepared =
      (⟨.ok { prepared.summary with written := true },
        prepared.log ++ [.written request.output prepared.summary.bytes]⟩,
        (writeIn files request.output prepared.output).2) := by
  rw [finishIn, if_neg (by rw [hdry]; exact Bool.false_ne_true)]
  generalize writeIn files request.output prepared.output = outcome at hwrite ⊢
  obtain ⟨written, after⟩ := outcome
  obtain rfl : written = .ok () := hwrite
  rfl

theorem finishIn_of_write_eq_error [FileView σ] [LawfulFiles σ] {error : FileError}
    (hdry : request.dryRun = false)
    (hwrite : (writeIn files request.output prepared.output).1 = .error error) :
    request.finishIn files prepared =
      (⟨.error (.write request.output error), prepared.log⟩, files) := by
  have hkept := LawfulFiles.failed_write_keeps files request.output prepared.output error hwrite
  rw [finishIn, if_neg (by rw [hdry]; exact Bool.false_ne_true)]
  generalize writeIn files request.output prepared.output = outcome at hwrite hkept
  obtain ⟨written, after⟩ := outcome
  obtain rfl : written = .error error := hwrite
  obtain rfl : after = files := hkept
  rfl

end Finished

end CheckPlan.Run.Request
