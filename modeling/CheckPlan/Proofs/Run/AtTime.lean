import CheckPlan.Proofs.Output.Stamp
import CheckPlan.Proofs.Run.AllOrNothing

namespace CheckPlan.Run.Request

open FileView

/-- The request with another time to write in the header. -/
def atTime (request : Request) (time : Text) : Request :=
  { request with rendering := { request.rendering with generatedAt := some time } }

@[simp] theorem atTime_catalog (request : Request) (time : Text) :
    (request.atTime time).catalog = request.catalog := rfl

@[simp] theorem atTime_assignments (request : Request) (time : Text) :
    (request.atTime time).assignments = request.assignments := rfl

@[simp] theorem atTime_output (request : Request) (time : Text) :
    (request.atTime time).output = request.output := rfl

@[simp] theorem atTime_dryRun (request : Request) (time : Text) :
    (request.atTime time).dryRun = request.dryRun := rfl

/-- The output of the request at a time, when all but the stamp is known. -/
def outputAt (request : Request) (below time : Text) : Text :=
  Header.opening request.rendering.header.generator ++
    (Header.stamp request.rendering.header.timestamp time ++ below)

theorem outputAt_of_not_timestamp {request : Request}
    (hoff : request.rendering.header.timestamp = false) (below first second : Text) :
    request.outputAt below first = request.outputAt below second := by
  rw [outputAt, outputAt, hoff]
  rfl

/-- Two sources fail to compile alike at all times, or they have the same output
    but for the stamp. -/
private theorem compile_atTime (request : Request) (catalogSource assignmentSource : Text) :
    (∃ failure, ∀ time,
      (request.atTime time).compile catalogSource assignmentSource = .error failure) ∨
    ∃ plan : Plan, ∃ below, ∀ time,
      (request.atTime time).compile catalogSource assignmentSource =
        .ok (request.outputAt below time, ⟨plan.hostCount, plan.invocationCount,
          Text.byteLength (request.outputAt below time), false⟩) := by
  cases hparse : Catalog.parse catalogSource with
  | error problems =>
    exact .inl ⟨.invalid request.catalog catalogSource problems,
      fun time => compile_of_parse_eq_error hparse assignmentSource⟩
  | ok catalog =>
    cases hresolve : catalog.resolve assignmentSource with
    | error problems =>
      exact .inl ⟨.invalid request.assignments assignmentSource problems,
        fun time => compile_of_resolve_eq_error hparse hresolve⟩
    | ok plan =>
      obtain ⟨below, hbelow⟩ :=
        Compilation.exists_render_eq_stamp ⟨catalog, plan⟩ request.rendering.header
      refine .inr ⟨plan, below, fun time => ?_⟩
      rw [compile_of_accepted hparse hresolve, outputAt, ← hbelow]
      rfl

section Prepared

variable {σ : Type} [FileAccess (StateM σ)]

/-- The first part of a run fails alike at all times, or has the same output but
    for the stamp. -/
private theorem prepareIn_atTime (request : Request) (files : σ) :
    (∃ failure log, ∀ time, (request.atTime time).prepareIn files = .error ⟨.error failure, log⟩) ∨
    ∃ plan : Plan, ∃ below log, ∀ time,
      (request.atTime time).prepareIn files =
        .ok ⟨request.outputAt below time, ⟨plan.hostCount, plan.invocationCount,
          Text.byteLength (request.outputAt below time), false⟩, log⟩ := by
  cases hcatalog : (readIn files request.catalog).1 with
  | error error =>
    refine .inl ⟨.read request.catalog error, [.reading request.catalog], fun time => ?_⟩
    simp only [prepareIn, atTime_catalog, hcatalog]
  | ok catalogSource =>
    cases hassignments : (readIn files request.assignments).1 with
    | error error =>
      refine .inl ⟨.read request.assignments error,
        [.reading request.catalog, .reading request.assignments], fun time => ?_⟩
      simp only [prepareIn, atTime_catalog, atTime_assignments, hcatalog, hassignments]
    | ok assignmentSource =>
      let log := [.reading request.catalog, .reading request.assignments] ++
        Event.ofCompilation catalogSource assignmentSource
      rcases compile_atTime request catalogSource assignmentSource with
        ⟨failure, hcompile⟩ | ⟨plan, below, hcompile⟩
      · refine .inl ⟨failure, log, fun time => ?_⟩
        simp only [prepareIn, atTime_catalog, atTime_assignments, hcatalog, hassignments, hcompile,
          log]
      · refine .inr ⟨plan, below, log, fun time => ?_⟩
        simp only [prepareIn, atTime_catalog, atTime_assignments, hcatalog, hassignments, hcompile,
          log]

end Prepared

section Ended

variable {σ : Type} [FileAccess (StateM σ)]

/-- At all times the run succeeds with the same counts, and it writes the output of
    its time if it is to write one. -/
structure SucceedsAtAllTimes (request : Request) (files : σ) (plan : Plan) (below : Text) :
    Prop where
  result : ∀ time, (request.atTime time).resultIn files =
    .ok ⟨plan.hostCount, plan.invocationCount, Text.byteLength (request.outputAt below time),
      !request.dryRun⟩
  written : request.dryRun = false → ∀ time,
    (writeIn files request.output (request.outputAt below time)).1 = .ok () ∧
      (request.atTime time).filesAfter files =
        (writeIn files request.output (request.outputAt below time)).2

/-- The same file is written at all times. -/
theorem SucceedsAtAllTimes.exists_replaces [FileView σ] [LawfulFiles σ] {request : Request}
    {files : σ} {plan : Plan} {below : Text}
    (hsucceeds : request.SucceedsAtAllTimes files plan below) (hdry : request.dryRun = false) :
    ∃ file, leadsTo? files request.output = some file ∧ ∀ time,
      Replaces files ((request.atTime time).filesAfter files) file
        (request.outputAt below time) := by
  obtain ⟨file, hleads, -⟩ :=
    LawfulFiles.write_replaces files _ _ (hsucceeds.written hdry []).1
  refine ⟨file, hleads, fun time => ?_⟩
  obtain ⟨hwrite, hafter⟩ := hsucceeds.written hdry time
  obtain ⟨same, hsame, hreplaces⟩ := LawfulFiles.write_replaces files _ _ hwrite
  obtain rfl : file = same := Option.some.inj (hleads.symm.trans hsame)
  rw [hafter]
  exact hreplaces

/-- A run fails alike at all times, or succeeds at all times. -/
theorem fails_or_succeeds_atTime [FileView σ] [LawfulFiles σ] [AcceptsAnyText σ]
    (request : Request) (files : σ) :
    (∃ failure, ∀ time, (request.atTime time).resultIn files = .error failure) ∨
      ∃ plan below, request.SucceedsAtAllTimes files plan below := by
  rcases request.prepareIn_atTime files with ⟨failure, log, hprepare⟩ | ⟨plan, below, log, hprepare⟩
  · refine .inl ⟨failure, fun time => ?_⟩
    rw [resultIn, runIn_of_prepareIn_eq_error (hprepare time)]
  · cases hdry : request.dryRun with
    | true =>
      have hdryAt (time : Text) : (request.atTime time).dryRun = true :=
        (request.atTime_dryRun time).trans hdry
      refine .inr ⟨plan, below, fun time => ?_, fun hnot => absurd hnot (by rw [hdry]; decide)⟩
      rw [resultIn_of_dryRun (hdryAt time) (hprepare time), hdry]
      rfl
    | false =>
      have hdryAt (time : Text) : (request.atTime time).dryRun = false :=
        (request.atTime_dryRun time).trans hdry
      have halike (time : Text) := AcceptsAnyText.write_alike files request.output
        (request.outputAt below time) (request.outputAt below [])
      cases hfirst : (writeIn files request.output (request.outputAt below [])).1 with
      | error error =>
        refine .inl ⟨.write request.output error, fun time => ?_⟩
        rw [resultIn_of_not_dryRun (hdryAt time) (hprepare time), atTime_output, halike, hfirst]
      | ok done =>
        have hwrite (time : Text) :
            (writeIn files request.output (request.outputAt below time)).1 = .ok () :=
          (halike time).trans hfirst
        refine .inr ⟨plan, below, fun time => ?_, fun _ time => ⟨hwrite time, ?_⟩⟩
        · rw [resultIn_of_not_dryRun (hdryAt time) (hprepare time), atTime_output, hwrite, hdry]
          rfl
        · rw [filesAfter, runIn_of_prepareIn_eq_ok (hprepare time),
            finishIn_of_write_eq_ok (hdryAt time) (hwrite time)]
          rfl

end Ended

end CheckPlan.Run.Request
