import CheckPlan.Proofs.Assignment.Meaning
import Mathlib.Logic.Relation

namespace CheckPlan

namespace Declaration

/-- Whether a line has a place in the slice of a host. Only the lines of other
    hosts have none. -/
def keptFor (host : Text) (declaration : Declaration) : Bool :=
  declaration.host?.all fun name => name = host

theorem keptFor_host (host name : Text) (segments : List Text) :
    (Declaration.host name segments).keptFor host = decide (name = host) := rfl

section Filter

variable (host : Text) (declarations : List Declaration)

theorem groupNames_filter_keptFor :
    groupNames (declarations.filter (keptFor host)) = groupNames declarations := by
  rw [groupNames, List.filterMap_filter, groupNames]
  congr 2
  funext declaration
  cases declaration with
  | group name segments => rfl
  | malformed expected => rfl
  | host name segments => exact ite_self none

theorem declared_filter_keptFor (name : Text) :
    declared name (declarations.filter (keptFor host)) = declared name declarations := by
  apply flatMap_filter
  intro declaration hdrop
  cases declaration with
  | group other segments => cases hdrop
  | malformed expected => rfl
  | host other segments => rfl

private theorem references_filter_keptFor :
    references (declarations.filter (keptFor host)) = references declarations := by
  funext segment
  unfold references
  split
  · rw [declared_filter_keptFor]
  · rfl

private theorem segmentCause?_filter_keptFor (catalog : Catalog) :
    segmentCause? catalog (declarations.filter (keptFor host)) =
      segmentCause? catalog declarations := by
  funext owner segment
  unfold segmentCause?
  split
  · rw [groupNames_filter_keptFor]
  · rfl

private theorem causes_filter_keptFor (catalog : Catalog) (declaration : Declaration) :
    declaration.causes catalog (declarations.filter (keptFor host)) =
      declaration.causes catalog declarations := by
  cases declaration with
  | malformed expected => rfl
  | group name segments => rfl
  | host name segments => rw [causes, causes, segmentCause?_filter_keptFor]

/-- The lines of other hosts give nothing to a host, and nothing to its lines. -/
private theorem invocations_filter_keptFor :
    invocations host (declarations.filter (keptFor host)) = invocations host declarations := by
  apply flatMap_withEarlier_filter
  · intro before declaration
    cases declaration with
    | malformed expected => rfl
    | group name segments => rfl
    | host name segments =>
      rw [invocationsOn, invocationsOn, references_filter_keptFor]
  · intro before declaration hdrop
    -- Only a line of another host is dropped, and it gives nothing to this one.
    cases declaration with
    | malformed expected => rfl
    | group name segments => rfl
    | host name segments =>
      rw [keptFor_host, decide_eq_false_iff_not] at hdrop
      rw [invocationsOn, if_neg hdrop]

theorem mem_hostNames_filter_keptFor_iff {name : Text} :
    name ∈ hostNames (declarations.filter (keptFor host)) ↔
      name = host ∧ host ∈ hostNames declarations := by
  simp only [mem_hostNames_iff, List.mem_filter, keptFor_host, decide_eq_true_eq]
  constructor
  · rintro ⟨segments, hmem, rfl⟩
    exact ⟨rfl, segments, hmem⟩
  · rintro ⟨rfl, segments, hmem⟩
    exact ⟨segments, hmem, rfl⟩

end Filter

end Declaration

namespace Text

/-- The source without the lines that assign to other hosts. Comments and blank
    lines stay. -/
def hostSlice (source host : Text) : Text :=
  (source.rawLines.filter fun raw => (Declaration.ofLine? raw).all (·.keptFor host)).flatten

private theorem rawLines_hostSlice (source host : Text) :
    (source.hostSlice host).rawLines =
      source.rawLines.filter fun raw => (Declaration.ofLine? raw).all (·.keptFor host) := by
  apply rawLines_flatten
  · intro raw hmem
    exact isLine_of_mem_rawLines (List.mem_of_mem_filter hmem)
  · exact (pairwise_rawLines source).filter _

theorem declarations_hostSlice (source host : Text) :
    (source.hostSlice host).declarations =
      source.declarations.filter (Declaration.keptFor host) := by
  rw [declarations, rawLines_hostSlice, List.filterMap_filter, declarations,
    List.filter_filterMap]
  congr 1
  funext raw
  cases Declaration.ofLine? raw with
  | none => rfl
  | some declaration => rfl

theorem mem_hostNames_hostSlice_iff {source host : Text} :
    host ∈ Declaration.hostNames (source.hostSlice host).declarations ↔
      host ∈ Declaration.hostNames source.declarations := by
  rw [declarations_hostSlice, Declaration.mem_hostNames_filter_keptFor_iff]
  exact and_iff_right rfl

/-- Another source in which two neighbouring lines, which assign to different
    hosts and both end with a line feed, have changed places. -/
inductive Exchange (source : Text) : Text → Prop
  | swap (above : List Text) (first second : Text) (below : List Text) {host other : Text}
      {segments otherSegments : List Text}
      (hlines : source.rawLines = above ++ first :: second :: below)
      (hfirst : Declaration.ofLine? first = some (.host host segments))
      (hsecond : Declaration.ofLine? second = some (.host other otherSegments))
      (hhosts : host ≠ other)
      (hfirstEnd : first.getLast? = some '\n') (hsecondEnd : second.getLast? = some '\n') :
      Exchange source (above ++ second :: first :: below).flatten

private theorem rawLines_swap {source first second : Text} {above below : List Text}
    (hlines : source.rawLines = above ++ first :: second :: below)
    (hfirst : first.getLast? = some '\n') (hsecond : second.getLast? = some '\n') :
    rawLines (above ++ second :: first :: below).flatten = above ++ second :: first :: below := by
  apply rawLines_flatten
  · intro raw hmem
    have hperm := (List.Perm.swap first second below).append_left above
    rw [← hlines] at hperm
    exact isLine_of_mem_rawLines (hperm.mem_iff.mp hmem)
  · have hends := pairwise_rawLines source
    rw [hlines] at hends
    obtain ⟨habove, hpair, hcross⟩ := List.pairwise_append.mp hends
    obtain ⟨-, hbelow⟩ := List.pairwise_cons.mp hpair
    obtain ⟨-, hbelow⟩ := List.pairwise_cons.mp hbelow
    refine List.pairwise_append.mpr ⟨habove, ?_, fun line hline _ _ => ?_⟩
    · exact .cons (fun _ _ => hsecond) (.cons (fun _ _ => hfirst) hbelow)
    · exact hcross line hline first List.mem_cons_self

/-- Lines of different hosts are never in one slice, so none sees them change
    places. -/
private theorem Exchange.hostSlice_eq {source other : Text} (hexchange : Exchange source other)
    (host : Text) : other.hostSlice host = source.hostSlice host := by
  cases hexchange with
  | swap above first second below hlines hfirst hsecond hhosts hfirstEnd hsecondEnd =>
    rw [hostSlice, rawLines_swap hlines hfirstEnd hsecondEnd, hostSlice, hlines,
      List.filter_append, List.filter_append]
    congr 2
    simp only [List.filter_cons, hfirst, hsecond, Option.all_some, Declaration.keptFor_host,
      decide_eq_true_eq]
    split_ifs with hkept hother
    · exact absurd (hother.trans hkept.symm) hhosts
    all_goals rfl

theorem hostSlice_eq_of_exchanges {source other : Text}
    (hexchanges : Relation.ReflTransGen Exchange source other) (host : Text) :
    other.hostSlice host = source.hostSlice host := by
  induction hexchanges with
  | refl => rfl
  | tail _ hexchange ih => exact (hexchange.hostSlice_eq host).trans ih

end Text

/-- The plan with one of its hosts, which has the invocations, and with all its
    groups. -/
def Plan.only (plan : Plan) (host : Text) (invocations : List Invocation) : Plan :=
  { plan with hosts := Table.empty.insert host invocations }

theorem Plan.host?_only (plan : Plan) (host : Text) (invocations : List Invocation)
    (name : Text) :
    (plan.only host invocations).host? name = if name = host then some invocations else none := by
  rw [host?, only, Table.insert, Table.get?_change, Table.get?_empty]

namespace Catalog

open Declaration

/-- A source is accepted exactly when each of its slices is. -/
theorem causes_eq_nil_iff_hostSlice (catalog : Catalog) (source : Text) :
    catalog.causes source = [] ↔ ∀ host, catalog.causes (source.hostSlice host) = [] := by
  constructor
  · intro hnone host
    refine causes_eq_nil_iff.mpr fun before declaration hmem => ?_
    rw [Text.declarations_hostSlice, mem_withEarlier_filter_iff] at hmem
    obtain ⟨-, all, hall, rfl⟩ := hmem
    rw [causes_filter_keptFor]
    exact causes_eq_nil_iff.mp hnone all declaration hall
  · intro hslices
    refine causes_eq_nil_iff.mpr fun before declaration hmem => ?_
    -- A host's line is in the slice of its host, any other line in every slice.
    obtain ⟨host, hkept⟩ : ∃ host, declaration.keptFor host = true := by
      cases declaration with
      | group name segments => exact ⟨[], rfl⟩
      | malformed expected => exact ⟨[], rfl⟩
      | host name segments => exact ⟨name, by rw [keptFor_host, decide_eq_true_eq]⟩
    have hslice : (before.filter (keptFor host), declaration) ∈
        withEarlier [] (source.hostSlice host).declarations := by
      rw [Text.declarations_hostSlice, mem_withEarlier_filter_iff]
      exact ⟨hkept, before, hmem, rfl⟩
    rw [← causes_filter_keptFor host]
    exact causes_eq_nil_iff.mp (hslices host) _ _ hslice

/-- The plan of a slice has its host alone, with what the whole source gives to
    the host. -/
private theorem hosts_eq_of_means_slice {part : Plan} {host : Text}
    {declarations : List Declaration}
    (hpart : part.Means (declarations.filter (keptFor host)))
    (hhost : host ∈ hostNames declarations) :
    part.hosts = Table.empty.insert host (invocations host declarations) := by
  have hmem (name : Text) :
      name ∈ hostNames (declarations.filter (keptFor host)) ↔ name = host := by
    rw [mem_hostNames_filter_keptFor_iff]
    exact and_iff_left hhost
  apply Table.eq_of_get?_eq
  · change part.hosts.names = [host]
    apply List.perm_singleton.mp
    refine (List.perm_ext_iff_of_nodup part.hosts.distinct (List.pairwise_singleton _ host)).mpr ?_
    intro name
    change name ∈ part.hosts.names ↔ name ∈ [host]
    rw [hpart.names_hosts, hmem, List.mem_singleton]
  · intro name
    change part.host? name = _
    rw [hpart.host?_eq, Table.insert, Table.get?_change, Table.get?_empty]
    by_cases hname : name = host
    · rw [if_pos ((hmem name).mpr hname), if_pos hname, hname, invocations_filter_keptFor]
    · rw [if_neg fun hfound => hname ((hmem name).mp hfound), if_neg hname]

/-- The slice of an accepted source for a host of its plan is accepted, and its
    plan has the same groups and the host with the same invocations. -/
theorem resolve_hostSlice {catalog : Catalog} {source : Text} {plan : Plan}
    (haccept : catalog.resolve source = .ok plan) {host : Text} {invocations : List Invocation}
    (hhost : plan.host? host = some invocations) :
    catalog.resolve (source.hostSlice host) = .ok (plan.only host invocations) := by
  have hnone := causes_eq_nil_of_resolve_eq_ok haccept
  have hslice := (causes_eq_nil_iff_hostSlice catalog source).mp hnone host
  obtain ⟨part, hpart⟩ := (exists_resolve_eq_ok_iff catalog (source.hostSlice host)).mpr hslice
  have hmeans := means_of_resolve_eq_ok haccept
  have hpartMeans := means_of_resolve_eq_ok hpart
  rw [Text.declarations_hostSlice] at hpartMeans
  have hgroups : part.groups = plan.groups :=
    hpartMeans.groups_eq hmeans (groupNames_filter_keptFor _ _) (declared_filter_keptFor _ _)
  obtain ⟨hname, rfl⟩ := hmeans.host?_eq_some_iff.mp hhost
  rw [hpart, Plan.only, ← hgroups, ← hosts_eq_of_means_slice hpartMeans hname]

end Catalog

end CheckPlan
