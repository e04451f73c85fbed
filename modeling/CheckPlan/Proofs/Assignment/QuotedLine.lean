import CheckPlan.Proofs.Plan.WellFormed

namespace CheckPlan

/-- What can stand behind the text of a line: nothing where the source ends, or
    a line end. -/
def Text.IsLineEnd (ending : Text) : Prop :=
  ending = [] ∨ ending = ['\n'] ∨ ending = ['\r', '\n']

namespace Text

private theorem IsLineEnd.blank {ending : Text} (hending : ending.IsLineEnd) : Blank ending := by
  rcases hending with rfl | rfl | rfl <;> exact List.all_eq_true.mp rfl

private theorem isLine_append_lineEnd {text ending : Text} (hne : text ≠ []) (hfeed : '\n' ∉ text)
    (hending : ending.IsLineEnd) : IsLine (text ++ ending) := by
  refine ⟨by simp [hne], ?_⟩
  rcases hending with rfl | rfl | rfl
  · rw [List.append_nil]
    exact fun hmem => hfeed (List.dropLast_subset _ hmem)
  · rwa [List.dropLast_concat]
  · rw [List.dropLast_append_of_ne_nil (List.cons_ne_nil _ _)]
    simpa using hfeed

end Text

/-- A table with one name has one entry. -/
private theorem Table.entries_eq_singleton {α : Type} {table : Table α} {name : Text} {value : α}
    (hnames : table.names = [name]) (hget : table.get? name = some value) :
    table.entries = [(name, value)] := by
  obtain ⟨entry, hentries, rfl⟩ := List.map_eq_singleton_iff.mp hnames
  have hentry : entry ∈ table.entries := by simp [hentries]
  rw [Table.get?_of_mem hentry, Option.some.injEq] at hget
  rw [hentries, ← hget]

namespace Declaration

variable {host ending : Text} {reference : Reference}

/-- Without a comma the line has the whole reference as its only segment. -/
private theorem declarations_quoted (hhost : IsHostName host) (hfeed : '\n' ∉ host)
    (hplain : reference.Plain) (hending : ending.IsLineEnd) :
    Text.declarations (host ++ ' ' :: reference.quoted ++ ending) =
      [.host host [reference.quoted]] := by
  have hsegment := hplain.isSegment_quoted
  have hline : Text.IsLine (host ++ ' ' :: reference.quoted ++ ending) :=
    Text.isLine_append_lineEnd (by simp) (by simp [hfeed, hsegment.no_feed]) hending
  have hrest : ¬ Text.Blank (reference.quoted ++ ending) := by
    obtain ⟨rest, hquoted⟩ := List.head?_eq_some_iff.mp (Reference.head?_quoted reference)
    rw [hquoted, List.cons_append, Text.blank_cons_iff]
    exact fun hall => Bool.noConfusion hall.1
  have hsegments : Text.segments (reference.quoted ++ ending) = [reference.quoted] := by
    rw [Text.segments_append_blank hending.blank, Text.segments_of_not_mem hsegment.no_comma,
      hsegment.trimmed]
  have hofLine := ofLine?_eq_host Text.blank_nil hhost hrest
  rw [List.nil_append, hsegments] at hofLine
  rw [Text.declarations, Text.rawLines_of_isLine hline, List.append_assoc, List.cons_append,
    List.filterMap_cons_some hofLine, List.filterMap_nil]

end Declaration

namespace Catalog

open Declaration

variable {catalog : Catalog} {host ending : Text} {reference : Reference}

private theorem exists_resolve_quoted (hhost : IsHostName host) (hfeed : '\n' ∉ host)
    (hcontains : catalog.contains reference.check = true) (hplain : reference.Plain)
    (hending : ending.IsLineEnd) :
    ∃ plan, catalog.resolve (host ++ ' ' :: reference.quoted ++ ending) = .ok plan ∧
      plan.groups.entries = [] ∧
      plan.hosts.entries = [(host, [Invocation.ofReference host reference])] := by
  have hdeclarations := declarations_quoted hhost hfeed hplain hending
  have hdirect : IsDirect catalog reference.quoted := ⟨reference, hplain.parse_quoted, hcontains⟩
  have hnone : catalog.causes (host ++ ' ' :: reference.quoted ++ ending) = [] := by
    rw [causes, hdeclarations, withEarlier_singleton, List.flatMap_singleton]
    exact List.filterMap_cons_none (hdirect.segmentCause?_eq_none [] host)
  obtain ⟨plan, haccept⟩ := (exists_resolve_eq_ok_iff catalog _).mpr hnone
  have hmeans := means_of_resolve_eq_ok haccept
  rw [hdeclarations] at hmeans
  have hgiven : invocations host [.host host [reference.quoted]] =
      [Invocation.ofReference host reference] := by
    have hreferences : references [] reference.quoted = [reference] := by
      rw [hdirect.references_eq, Reference.parse?, hplain.parse_quoted]
      rfl
    simp [invocations, withEarlier_singleton, invocationsOn, hreferences]
  refine ⟨plan, haccept, List.map_eq_nil_iff.mp hmeans.names_groups, ?_⟩
  exact Table.entries_eq_singleton hmeans.names_hosts
    (hmeans.host?_eq_some_iff.mpr ⟨List.mem_singleton_self host, hgiven.symm⟩)

/-- On a line of a host, with every token in quotes, a reference to a check of
    the catalog is kept exactly when no argument holds a comma: the line is then
    accepted, for this host and this invocation alone. Blanks, at signs and empty
    arguments do no harm. -/
theorem resolve_quoted_iff (hhost : IsHostName host) (hfeed : '\n' ∉ host)
    (hcontains : catalog.contains reference.check = true)
    (hcheck : '"' ∉ reference.check ∧ ',' ∉ reference.check ∧ '\n' ∉ reference.check)
    (hargs : ∀ arg ∈ reference.args, '"' ∉ arg ∧ '\n' ∉ arg) (hending : ending.IsLineEnd) :
    (∃ plan, catalog.resolve (host ++ ' ' :: reference.quoted ++ ending) = .ok plan ∧
      plan.groups.entries = [] ∧
      plan.hosts.entries = [(host, [Invocation.ofReference host reference])]) ↔
    ∀ arg ∈ reference.args, ',' ∉ arg := by
  constructor
  · rintro ⟨plan, haccept, -, hhosts⟩ arg harg
    have hmem : (host, [Invocation.ofReference host reference]) ∈ plan.hosts.entries := by
      rw [hhosts]
      exact List.mem_singleton_self _
    have hhost : plan.host? host = some [Invocation.ofReference host reference] :=
      Table.get?_of_mem hmem
    have hcomplete := (means_of_resolve_eq_ok haccept).complete_of_host?
      (causes_eq_nil_of_resolve_eq_ok haccept) hhost _ (List.mem_singleton_self _)
    obtain ⟨rest, hrest, hfree⟩ := hcomplete.args
    obtain ⟨-, rfl⟩ := List.cons.inj hrest
    exact (hfree arg harg).2.1
  · intro hcomma
    have hplain : reference.Plain := by
      refine List.forall_mem_cons.mpr ⟨by simpa using hcheck, fun arg harg => ?_⟩
      exact ⟨(hargs arg harg).1, hcomma arg harg, (hargs arg harg).2⟩
    exact exists_resolve_quoted hhost hfeed hcontains hplain hending

/-- Two blanks, an at sign and no character at all are kept between quotes. -/
theorem resolve_quoted_iff_blanks :
    ∃ plan, resolve ⟨[⟨"my sql".toList, [], 1⟩], by decide⟩
        "db1 \"$my sql\" \"a  b\" \"\" \"@g\"\r\n".toList = .ok plan ∧
      plan.groups.entries = [] ∧
      plan.hosts.entries = [("db1".toList,
        [⟨"my sql".toList, ["db1".toList, "a  b".toList, [], "@g".toList]⟩])] := by
  have hiff := @resolve_quoted_iff ⟨[⟨"my sql".toList, [], 1⟩], by decide⟩ "db1".toList
    ['\r', '\n'] ⟨"my sql".toList, ["a  b".toList, [], "@g".toList]⟩
    ⟨by decide, 'd', "b1".toList, rfl, by decide⟩ (by decide) (by decide) (by decide) (by decide)
    (.inr (.inr rfl))
  exact hiff.mpr (by decide)

/-- A comma between quotes ends the segment, and what stands behind it is no
    reference. -/
theorem not_resolve_quoted_comma :
    ¬ ∀ (catalog : Catalog) (host : Text) (reference : Reference), IsHostName host →
      '\n' ∉ host → catalog.contains reference.check = true →
      ('"' ∉ reference.check ∧ ',' ∉ reference.check ∧ '\n' ∉ reference.check) →
      (∀ arg ∈ reference.args, '"' ∉ arg ∧ '\n' ∉ arg) →
        ∃ plan, catalog.resolve (host ++ ' ' :: reference.quoted) = .ok plan ∧
          plan.hosts.entries = [(host, [Invocation.ofReference host reference])] := by
  intro hkept
  obtain ⟨plan, haccept, -⟩ := hkept ⟨[⟨['c'], [], 1⟩], by decide⟩ ['h'] ⟨['c'], ["a,b".toList]⟩
    ⟨by decide, 'h', [], rfl, by decide⟩ (by decide) (by decide) (by decide) (by decide)
  have hreported : Problem.reported (resolve ⟨[⟨['c'], [], 1⟩], by decide⟩
      "h \"$c\" \"a,b\"".toList) = [⟨.invalidReference "b\"".toList, 1, ⟨10, 12⟩⟩] := by
    decide
  cases (congrArg Problem.reported haccept).symm.trans hreported

end Catalog

end CheckPlan
