import CheckPlan.Proofs.Assignment.Meaning

namespace CheckPlan

/-- Whether the cause is that a check is not known, and the catalog has the
    check. -/
def Cause.curedBy (catalog : Catalog) : Cause → Bool
  | .unknownCheck _ check => catalog.contains check
  | _ => false

namespace Catalog

/-- A catalog with at least the names of another one. -/
def Covers (larger catalog : Catalog) : Prop :=
  ∀ name, catalog.contains name = true → larger.contains name = true

private theorem covers_iff {larger catalog : Catalog} :
    larger.Covers catalog ↔ catalog.names ⊆ larger.names := by
  constructor
  · intro hcovers name hmem
    exact mem_names_iff.mpr (hcovers name (mem_names_iff.mp hmem))
  · intro hsubset name hcontains
    exact mem_names_iff.mp (hsubset (mem_names_iff.mpr hcontains))

end Catalog

section Covers

variable {catalog larger : Catalog}

namespace Declaration

/-- A reference that the catalog does not allow is allowed by a larger one
    exactly when that has its check. -/
theorem referenceCause?_of_covers (hcovers : larger.Covers catalog) (owner : Owner)
    (segment : Text) :
    referenceCause? larger owner segment =
      (referenceCause? catalog owner segment).filter fun cause => !cause.curedBy larger := by
  unfold referenceCause?
  cases hparse : Reference.parse segment with
  | error invalid => rfl
  | ok reference =>
    by_cases hcontains : catalog.contains reference.check = true
    · simp [hcontains, hcovers reference.check hcontains]
    · by_cases hlarger : larger.contains reference.check = true <;>
        simp [hcontains, hlarger, Option.filter, Cause.curedBy]

private theorem segmentCause?_of_covers (hcovers : larger.Covers catalog)
    (earlier : List Declaration)
    (host segment : Text) :
    segmentCause? larger earlier host segment =
      (segmentCause? catalog earlier host segment).filter fun cause => !cause.curedBy larger := by
  unfold segmentCause?
  split
  · next name =>
    by_cases hname : name ∈ groupNames earlier
    · rw [if_pos hname, Option.filter_none]
    · rw [if_neg hname]
      rfl
  · exact referenceCause?_of_covers hcovers _ _

end Declaration

private theorem Line.problems_of_covers (line : Line) {judge judgeLarger : Text → Option Cause}
    (hjudge : ∀ segment, judgeLarger segment =
      (judge segment).filter fun cause => !cause.curedBy larger) (segments : List Piece) :
    line.problems judgeLarger segments =
      (line.problems judge segments).filter fun problem => !problem.cause.curedBy larger := by
  rw [problems, problems, List.filter_filterMap]
  congr 1
  funext segment
  rw [hjudge, Option.filter_map]
  rfl

/-- A clause keeps its problems, but for those that the larger catalog cures. -/
private theorem Clause.problems_of_covers (hcovers : larger.Covers catalog)
    (earlier : List Declaration) (clause : Clause) :
    clause.problems larger earlier =
      (clause.problems catalog earlier).filter fun problem => !problem.cause.curedBy larger := by
  rw [problems, problems]
  cases clause.statement with
  | malformed expected => rfl
  | group name segments =>
    exact clause.line.problems_of_covers (Declaration.referenceCause?_of_covers hcovers _) segments
  | host name segments =>
    exact clause.line.problems_of_covers (Declaration.segmentCause?_of_covers hcovers earlier name)
      segments

namespace Catalog

theorem reported_resolve_of_covers (hcovers : larger.Covers catalog) (source : Text) :
    Problem.reported (larger.resolve source) =
      (Problem.reported (catalog.resolve source)).filter fun problem =>
        !problem.cause.curedBy larger := by
  rw [reported_resolve_eq_problems, reported_resolve_eq_problems, List.filter_flatMap]
  apply List.flatMap_congr
  rintro ⟨above, clause⟩ -
  exact Clause.problems_of_covers hcovers _ clause

private theorem reported_resolve_sublist_of_covers (hcovers : larger.Covers catalog)
    (source : Text) :
    (Problem.reported (larger.resolve source)).Sublist
      (Problem.reported (catalog.resolve source)) := by
  rw [reported_resolve_of_covers hcovers]
  exact List.filter_sublist

/-- What a catalog accepts a larger one accepts, with the same plan. -/
theorem resolve_eq_ok_of_covers (hcovers : larger.Covers catalog) {source : Text} {plan : Plan}
    (haccept : catalog.resolve source = .ok plan) : larger.resolve source = .ok plan := by
  have hnone : Problem.reported (larger.resolve source) = [] := by
    rw [reported_resolve_of_covers hcovers, haccept]
    rfl
  obtain ⟨other, hother⟩ := exists_resolve_eq_ok_iff_reported.mpr hnone
  rw [hother, (means_of_resolve_eq_ok hother).unique (means_of_resolve_eq_ok haccept)]

/-- Only the names of templates count. -/
theorem resolve_eq_of_covers (hcovers : larger.Covers catalog) (hcovered : catalog.Covers larger)
    (source : Text) : larger.resolve source = catalog.resolve source := by
  have hsub := reported_resolve_sublist_of_covers hcovers source
  have hsup := reported_resolve_sublist_of_covers hcovered source
  exact resolve_eq_of_reported_eq (hsub.antisymm hsup)

end Catalog

end Covers

namespace Catalog

/-- More templates only help. Against a catalog with more names a source has
    the problems that it has against the smaller one, at the same places and in
    the same order, but for the unknown checks that are known now. What was
    accepted keeps its plan, and nothing but the names of templates counts. -/
theorem resolve_of_names_subset {catalog larger : Catalog} (hnames : catalog.names ⊆ larger.names)
    (source : Text) :
    Problem.reported (larger.resolve source) =
      (Problem.reported (catalog.resolve source)).filter (fun problem =>
        !problem.cause.curedBy larger) ∧
    (∀ plan, catalog.resolve source = .ok plan → larger.resolve source = .ok plan) ∧
    (larger.names ⊆ catalog.names → larger.resolve source = catalog.resolve source) := by
  have hcovers := covers_iff.mpr hnames
  refine ⟨reported_resolve_of_covers hcovers source, ?_, ?_⟩
  · intro plan haccept
    exact resolve_eq_ok_of_covers hcovers haccept
  · intro hback
    exact resolve_eq_of_covers hcovers (covers_iff.mpr hback) source

/-- A template that is added takes away the problems with its check, in groups
    and on hosts, and leaves the others where they are. An accepted source keeps
    its plan. -/
theorem resolve_of_names_subset_repaired :
    names ⟨[⟨['a'], [], 1⟩], by decide⟩ ⊆
      names ⟨[⟨['b'], ['x'], 7⟩, ⟨['a'], ['y'], 9⟩], by decide⟩ ∧
    Problem.reported (resolve ⟨[⟨['b'], ['x'], 7⟩, ⟨['a'], ['y'], 9⟩], by decide⟩
        "@g $b, $c\nh $b, @g, b, $a\nh @k\n".toList) =
      [⟨.unknownCheck (.group ['g']) ['c'], 1, ⟨7, 9⟩⟩,
        ⟨.invalidReference ['b'], 2, ⟨20, 21⟩⟩,
        ⟨.unknownGroup ['h'] ['k'], 3, ⟨28, 30⟩⟩] ∧
    ∃ plan, resolve ⟨[⟨['a'], [], 1⟩], by decide⟩ "@g $a 1\nh @g\n".toList = .ok plan ∧
      resolve ⟨[⟨['b'], ['x'], 7⟩, ⟨['a'], ['y'], 9⟩], by decide⟩ "@g $a 1\nh @g\n".toList =
        .ok plan ∧
      plan.host? ['h'] = some [⟨['a'], [['h'], ['1']]⟩] := by
  have hnames : names ⟨[⟨['a'], [], 1⟩], by decide⟩ ⊆
      names ⟨[⟨['b'], ['x'], 7⟩, ⟨['a'], ['y'], 9⟩], by decide⟩ := by
    intro name hname
    rw [mem_names_iff, contains_eq_true_iff] at hname ⊢
    exact List.mem_cons_of_mem _ hname
  obtain ⟨plan, haccept⟩ : ∃ plan, resolve ⟨[⟨['a'], [], 1⟩], by decide⟩
    "@g $a 1\nh @g\n".toList = .ok plan := ⟨_, rfl⟩
  obtain ⟨hreported, -⟩ :=
    resolve_of_names_subset hnames "@g $b, $c\nh $b, @g, b, $a\nh @k\n".toList
  obtain ⟨-, hkept, -⟩ := resolve_of_names_subset hnames "@g $a 1\nh @g\n".toList
  refine ⟨hnames, ?_, plan, haccept, hkept plan haccept, ?_⟩
  · rw [hreported]
    decide
  · cases haccept
    decide

end Catalog

end CheckPlan
