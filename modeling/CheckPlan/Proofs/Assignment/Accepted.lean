import CheckPlan.Proofs.Assignment.Meaning
import CheckPlan.Proofs.Reference.Quoted

namespace CheckPlan

namespace Declaration

/-- The segments of a line. -/
def segments : Declaration → List Text
  | .group _ segments => segments
  | .host _ segments => segments
  | .malformed _ => []

/-- The segments of a line are those of a part of its trimmed text. -/
theorem exists_segments_eq {raw : Text} {declaration : Declaration}
    (hline : ofLine? raw = some declaration) :
    (∃ expected, declaration = .malformed expected) ∨
      ∃ rest, rest ⊆ Text.trim raw ∧ declaration.segments = Text.segments rest := by
  have hdefinition : ∀ {text name segments}, definition? text = some (name, segments) →
      ∃ rest, rest ⊆ text ∧ segments = Text.segments rest := by
    intro text name segments hsome
    obtain ⟨rest, rfl, -, -, hsegments⟩ := definition?_eq_some_iff.mp hsome
    exact ⟨rest, fun c hmem => List.mem_append_right name (List.mem_cons_of_mem _ hmem), hsegments⟩
  obtain ⟨-, -, rfl⟩ := ofLine?_eq_some_iff.mp hline
  unfold ofText
  split
  · next text htext =>
    cases hfound : definition? text with
    | none => exact .inl ⟨_, rfl⟩
    | some found =>
      obtain ⟨rest, hsubset, hsegments⟩ := hdefinition hfound
      rw [htext]
      exact .inr ⟨rest, fun c hmem => List.mem_cons_of_mem _ (hsubset hmem), hsegments⟩
  · cases hfound : definition? (Text.trim raw) with
    | none => exact .inl ⟨_, rfl⟩
    | some found =>
      obtain ⟨rest, hsubset, hsegments⟩ := hdefinition hfound
      exact .inr ⟨rest, hsubset, hsegments⟩

theorem of_mem_segments {source : Text} {declaration : Declaration}
    (hmem : declaration ∈ source.declarations) :
    ∀ segment ∈ declaration.segments,
      ',' ∉ segment ∧ '\n' ∉ segment ∧ Text.trim segment = segment := by
  obtain ⟨raw, hline, hfeed⟩ := Text.exists_of_mem_declarations hmem
  intro segment hsegment
  rcases exists_segments_eq hline with ⟨expected, rfl⟩ | ⟨rest, hrest, hsegments⟩
  · cases hsegment
  · rw [hsegments] at hsegment
    obtain ⟨hsubset, hcomma, htrim⟩ := Text.of_mem_segments hsegment
    exact ⟨hcomma, fun hc => hfeed (hrest (hsubset hc)), htrim⟩

/-- A line of a group or a host has a segment. -/
theorem segments_ne_nil {source : Text} {declaration : Declaration}
    (hmem : declaration ∈ source.declarations)
    (hform : ∀ expected, declaration ≠ .malformed expected) : declaration.segments ≠ [] := by
  obtain ⟨raw, -, hline⟩ := List.mem_filterMap.mp hmem
  rcases exists_segments_eq hline with ⟨expected, hmalformed⟩ | ⟨rest, -, hsegments⟩
  · exact absurd hmalformed (hform expected)
  · rw [hsegments]
    exact Text.segments_ne_nil rest

/-- The segment is a reference to a check of the catalog. -/
def IsDirect (catalog : Catalog) (segment : Text) : Prop :=
  ∃ reference, Reference.parse segment = .ok reference ∧ catalog.contains reference.check = true

namespace IsDirect

variable {catalog : Catalog} {segment : Text}

theorem ne_nil (hdirect : IsDirect catalog segment) : segment ≠ [] := by
  obtain ⟨reference, hparse, -⟩ := hdirect
  rintro rfl
  rw [Reference.parse_nil] at hparse
  cases hparse

theorem ne_at (hdirect : IsDirect catalog segment) (name : Text) : segment ≠ '@' :: name := by
  obtain ⟨reference, hparse, -⟩ := hdirect
  rintro rfl
  rw [Reference.parse_at] at hparse
  cases hparse

/-- A reference stands on a host's line without regard to the lines above. -/
theorem segmentCause?_eq_none (hdirect : IsDirect catalog segment) (earlier : List Declaration)
    (host : Text) : segmentCause? catalog earlier host segment = none := by
  rw [segmentCause?.eq_2 _ _ _ _ hdirect.ne_at]
  exact referenceCause?_eq_none_iff.mpr hdirect

theorem references_eq (hdirect : IsDirect catalog segment) (earlier : List Declaration) :
    references earlier segment = (Reference.parse? segment).toList :=
  references.eq_2 _ _ hdirect.ne_at

end IsDirect

section Accepted

variable {catalog : Catalog} {source : Text} {earlier : List Declaration}

/-- Every segment of a group's line is a reference to a check. -/
theorem isDirect_of_group_mem (hnone : catalog.causes source = []) {name : Text}
    {segments : List Text} (hmem : .group name segments ∈ source.declarations) :
    ∀ segment ∈ segments, IsDirect catalog segment := by
  intro segment hsegment
  obtain ⟨before, hbefore⟩ := exists_mem_withEarlier [] hmem
  have hcauses := Catalog.causes_eq_nil_iff.mp hnone _ _ hbefore
  exact referenceCause?_eq_none_iff.mp (List.filterMap_eq_nil_iff.mp hcauses segment hsegment)

/-- What is declared for a group can be written in quotes, and its check is in
    the catalog. -/
theorem of_mem_declared (hnone : catalog.causes source = [])
    (hearlier : earlier ⊆ source.declarations) {name : Text} {reference : Reference}
    (hmem : reference ∈ declared name earlier) :
    reference.Plain ∧ catalog.contains reference.check = true := by
  obtain ⟨segments, hgroup, segment, hsegment, hparse⟩ := mem_declared_iff.mp hmem
  have hsource := hearlier hgroup
  obtain ⟨found, hfound, hcontains⟩ := isDirect_of_group_mem hnone hsource segment hsegment
  obtain ⟨hcomma, hfeed, -⟩ := of_mem_segments hsource segment hsegment
  rw [Reference.parse?, hfound] at hparse
  cases hparse
  exact ⟨Reference.plain_of_parse_eq_ok hcomma hfeed hfound, hcontains⟩

/-- A group that some line adds to is not empty. -/
theorem declared_ne_nil (hnone : catalog.causes source = [])
    (hearlier : earlier ⊆ source.declarations) {name : Text} (hname : name ∈ groupNames earlier) :
    declared name earlier ≠ [] := by
  obtain ⟨segments, hgroup⟩ := mem_groupNames_iff.mp hname
  have hsource := hearlier hgroup
  have hne : segments ≠ [] := segments_ne_nil hsource (by simp)
  obtain ⟨segment, hsegment⟩ := List.exists_mem_of_ne_nil segments hne
  obtain ⟨reference, hparse, -⟩ := isDirect_of_group_mem hnone hsource segment hsegment
  have hmem : reference ∈ declared name earlier :=
    mem_declared_iff.mpr
      ⟨segments, hgroup, segment, hsegment, by rw [Reference.parse?, hparse]; rfl⟩
  exact List.ne_nil_of_mem hmem

/-- Every segment of a host's line is a reference to a check, or uses a group
    that a line above adds to. -/
theorem isDirect_or_group_of_host_mem (hnone : catalog.causes source = []) {host : Text}
    {segments : List Text}
    (hmem : (earlier, .host host segments) ∈ withEarlier [] source.declarations)
    {segment : Text} (hsegment : segment ∈ segments) :
    IsDirect catalog segment ∨ ∃ name ∈ groupNames earlier, segment = '@' :: name := by
  have hcause : segmentCause? catalog earlier host segment = none :=
    List.filterMap_eq_nil_iff.mp (Catalog.causes_eq_nil_iff.mp hnone _ _ hmem) segment hsegment
  unfold segmentCause? at hcause
  split at hcause
  · next name =>
    split at hcause
    · next hname => exact .inr ⟨name, hname, rfl⟩
    · cases hcause
  · exact .inl (referenceCause?_eq_none_iff.mp hcause)

section Segment

variable {host segment : Text} {segments : List Text}

/-- What a segment of a host's line stands for can be written in quotes, and
    its checks are in the catalog. -/
private theorem of_mem_references (hnone : catalog.causes source = [])
    (hmem : (earlier, .host host segments) ∈ withEarlier [] source.declarations)
    (hsegment : segment ∈ segments) {reference : Reference}
    (hreference : reference ∈ references earlier segment) :
    reference.Plain ∧ catalog.contains reference.check = true := by
  rcases isDirect_or_group_of_host_mem hnone hmem hsegment with hdirect | ⟨name, -, rfl⟩
  · rw [hdirect.references_eq] at hreference
    obtain ⟨found, hfound, hcontains⟩ := hdirect
    obtain ⟨hcomma, hfeed, -⟩ := of_mem_segments (mem_of_mem_withEarlier hmem) segment hsegment
    rw [Reference.parse?, hfound] at hreference
    rw [List.mem_singleton.mp hreference]
    exact ⟨Reference.plain_of_parse_eq_ok hcomma hfeed hfound, hcontains⟩
  · have hdeclared := Reference.mem_of_mem_settle hreference
    exact of_mem_declared hnone (subset_of_mem_withEarlier hmem) hdeclared

/-- No segment of a host's line stands for nothing. -/
theorem references_ne_nil (hnone : catalog.causes source = [])
    (hmem : (earlier, .host host segments) ∈ withEarlier [] source.declarations)
    (hsegment : segment ∈ segments) : references earlier segment ≠ [] := by
  rcases isDirect_or_group_of_host_mem hnone hmem hsegment with hdirect | ⟨name, hname, rfl⟩
  · rw [hdirect.references_eq]
    obtain ⟨found, hfound, -⟩ := hdirect
    rw [Reference.parse?, hfound]
    exact List.cons_ne_nil _ _
  · exact Reference.settle_ne_nil
      (declared_ne_nil hnone (subset_of_mem_withEarlier hmem) hname)

end Segment

/-- Every invocation of a host comes from a reference that can be written in
    quotes, to a check of the catalog. -/
theorem exists_reference_of_mem_invocations (hnone : catalog.causes source = []) {host : Text}
    {invocation : Invocation} (hmem : invocation ∈ invocations host source.declarations) :
    ∃ reference, invocation = .ofReference host reference ∧ reference.Plain ∧
      catalog.contains reference.check = true := by
  obtain ⟨above, segments, hhost, segment, hsegment, reference, hreference, rfl⟩ :=
    mem_invocations_iff.mp hmem
  exact ⟨reference, rfl, of_mem_references hnone hhost hsegment hreference⟩

end Accepted

end Declaration

end CheckPlan
