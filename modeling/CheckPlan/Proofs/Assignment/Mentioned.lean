import CheckPlan.Proofs.Assignment.Accepted

namespace CheckPlan

/-- The checks of the segments of a line that are references. -/
def Declaration.mentioned (declaration : Declaration) : List Text :=
  declaration.segments.filterMap fun segment => (Reference.parse? segment).map Reference.check

/-- The checks that a source refers to, for groups and for hosts. -/
def Text.mentionedChecks (source : Text) : List Text :=
  source.declarations.flatMap Declaration.mentioned

namespace Declaration

theorem check_mem_mentioned {declaration : Declaration} {segment : Text} {reference : Reference}
    (hsegment : segment ∈ declaration.segments)
    (hparse : Reference.parse? segment = some reference) :
    reference.check ∈ declaration.mentioned :=
  List.mem_filterMap.mpr ⟨segment, hsegment, by rw [hparse, Option.map_some]⟩

section Judged

variable {catalog other : Catalog}

theorem referenceCause?_congr {segment : Text}
    (hsame : ∀ reference, Reference.parse? segment = some reference →
      other.contains reference.check = catalog.contains reference.check) (owner : Owner) :
    referenceCause? other owner segment = referenceCause? catalog owner segment := by
  unfold referenceCause?
  cases hparse : Reference.parse segment with
  | error invalid => rfl
  | ok reference =>
    dsimp only
    rw [hsame reference (by rw [Reference.parse?, hparse]; rfl)]

private theorem segmentCause?_congr {segment : Text}
    (hsame : ∀ reference, Reference.parse? segment = some reference →
      other.contains reference.check = catalog.contains reference.check)
    (earlier : List Declaration) (host : Text) :
    segmentCause? other earlier host segment = segmentCause? catalog earlier host segment := by
  unfold segmentCause?
  split
  · rfl
  · exact referenceCause?_congr hsame _

end Judged

end Declaration

section Same

variable {catalog other : Catalog}

private theorem Line.problems_congr (line : Line) {judge otherJudge : Text → Option Cause}
    {segments : List Piece}
    (hjudge : ∀ segment ∈ segments, otherJudge segment.text = judge segment.text) :
    line.problems otherJudge segments = line.problems judge segments := by
  rw [problems, problems]
  apply List.filterMap_congr
  intro segment hmem
  rw [hjudge segment hmem]

/-- A clause is judged by the checks that it mentions. -/
private theorem Clause.problems_congr {clause : Clause}
    (hsame : ∀ check ∈ clause.declaration.mentioned,
      other.contains check = catalog.contains check) (earlier : List Declaration) :
    clause.problems other earlier = clause.problems catalog earlier := by
  have hreference {segment : Text} (hsegment : segment ∈ clause.declaration.segments)
      (reference : Reference) (hparse : Reference.parse? segment = some reference) :
      other.contains reference.check = catalog.contains reference.check :=
    hsame _ (Declaration.check_mem_mentioned hsegment hparse)
  rw [declaration] at hreference
  rw [problems, problems]
  cases hstatement : clause.statement with
  | malformed expected => rfl
  | group name segments =>
    rw [hstatement] at hreference
    refine clause.line.problems_congr fun segment hmem => ?_
    exact Declaration.referenceCause?_congr (hreference (List.mem_map_of_mem hmem)) _
  | host name segments =>
    rw [hstatement] at hreference
    refine clause.line.problems_congr fun segment hmem => ?_
    exact Declaration.segmentCause?_congr (hreference (List.mem_map_of_mem hmem)) earlier name

namespace Catalog

private theorem reported_resolve_congr {source : Text}
    (hsame : ∀ check ∈ source.mentionedChecks, other.contains check = catalog.contains check) :
    Problem.reported (other.resolve source) = Problem.reported (catalog.resolve source) := by
  rw [reported_resolve_eq_problems, reported_resolve_eq_problems]
  apply List.flatMap_congr
  rintro ⟨above, clause⟩ hmem
  refine Clause.problems_congr (fun check hcheck => hsame check ?_) _
  have hdeclaration : clause.declaration ∈ source.declarations := by
    rw [← Text.map_declaration_clauses]
    exact List.mem_map_of_mem (mem_of_mem_withEarlier hmem)
  exact List.mem_flatMap.mpr ⟨_, hdeclaration, hcheck⟩

/-- Catalogs that have the same of the checks that a source mentions do the same
    with it. -/
theorem resolve_congr {source : Text}
    (hsame : ∀ check ∈ source.mentionedChecks, other.contains check = catalog.contains check) :
    other.resolve source = catalog.resolve source :=
  resolve_eq_of_reported_eq (reported_resolve_congr hsame)

end Catalog

end Same

namespace Declaration

variable {source : Text}

private theorem check_mem_of_mem_declared {earlier : List Declaration}
    (hearlier : earlier ⊆ source.declarations) {name : Text} {reference : Reference}
    (hmem : reference ∈ declared name earlier) :
    reference.check ∈ source.mentionedChecks := by
  obtain ⟨segments, hgroup, segment, hsegment, hparse⟩ := mem_declared_iff.mp hmem
  exact List.mem_flatMap.mpr ⟨_, hearlier hgroup, check_mem_mentioned hsegment hparse⟩

/-- A host is given invocations of checks that the source mentions, on the host's
    lines or on those of groups. -/
theorem check_mem_mentionedChecks {host : Text} {invocation : Invocation}
    (hmem : invocation ∈ invocations host source.declarations) :
    invocation.check ∈ source.mentionedChecks := by
  obtain ⟨above, segments, hhost, segment, hsegment, reference, hreference, rfl⟩ :=
    mem_invocations_iff.mp hmem
  change reference.check ∈ source.mentionedChecks
  unfold references at hreference
  split at hreference
  · exact check_mem_of_mem_declared (subset_of_mem_withEarlier hhost)
      (Reference.mem_of_mem_settle hreference)
  · refine List.mem_flatMap.mpr ⟨_, mem_of_mem_withEarlier hhost, ?_⟩
    exact check_mem_mentioned hsegment (Option.mem_toList.mp hreference)

end Declaration

namespace Catalog

/-- A catalog that accepts a source has all checks that the source mentions. -/
theorem contains_of_mem_mentionedChecks {catalog : Catalog} {source : Text}
    (hnone : catalog.causes source = []) {check : Text} (hmem : check ∈ source.mentionedChecks) :
    catalog.contains check = true := by
  obtain ⟨declaration, hdeclaration, hmem⟩ := List.mem_flatMap.mp hmem
  obtain ⟨segment, hsegment, hmem⟩ := List.mem_filterMap.mp hmem
  obtain ⟨reference, hparse, rfl⟩ := Option.map_eq_some_iff.mp hmem
  have hdirect : Declaration.IsDirect catalog segment := by
    cases declaration with
    | malformed expected => cases hsegment
    | group name segments =>
      exact Declaration.isDirect_of_group_mem hnone hdeclaration segment hsegment
    | host name segments =>
      obtain ⟨earlier, hearlier⟩ := exists_mem_withEarlier [] hdeclaration
      rcases Declaration.isDirect_or_group_of_host_mem hnone hearlier hsegment with
        hdirect | ⟨group, -, rfl⟩
      · exact hdirect
      · -- What stands behind an at sign is no reference.
        rw [Reference.parse?, Reference.parse_at] at hparse
        cases hparse
  obtain ⟨found, hfound, hcontains⟩ := hdirect
  rw [Reference.parse?, hfound] at hparse
  cases hparse
  exact hcontains

end Catalog

end CheckPlan
