import CheckPlan.Proofs.Assignment.Meaning
import CheckPlan.Proofs.Reference.Quoted

namespace CheckPlan

namespace Declaration

/-- What stands for a segment once groups are spelled out: the references of
    the group behind an at sign, in quotes, or else the segment itself. -/
def spellings (earlier : List Declaration) : Text → List Text
  | '@' :: name => (Reference.settle (declared name earlier)).map Reference.quoted
  | segment => [segment]

/-- A part between commas with its segment spelled out. -/
def spellPart (earlier : List Declaration) (part : Text) : Text :=
  part.mapTrimmed fun segment => [','].intercalate (spellings earlier segment)

/-- A trimmed host's line with its segments spelled out. -/
def spellText (earlier : List Declaration) (text : Text) : Text :=
  text.takeWhile (· ≠ ' ') ++
    ' ' :: [','].intercalate
      (((text.dropWhile (· ≠ ' ')).tail.splitOn ',').map (spellPart earlier))

/-- The line with its segments spelled out when it is a host's, and no line
    when it is a group's. -/
def spellLine? (earlier : List Declaration) (raw : Text) : Option Text :=
  match ofLine? raw with
  | some (.group _ _) => none
  | some (.host _ _) => some (raw.mapTrimmed (spellText earlier))
  | _ => some raw

/-- What a line declares with its segments spelled out. -/
def spelled? (earlier : List Declaration) : Declaration → Option Declaration
  | .group _ _ => none
  | .host name segments => some (.host name (segments.flatMap (spellings earlier)))
  | .malformed expected => some (.malformed expected)

end Declaration

/-- The source without groups: every line spelled out by the lines above it. -/
def Text.spelledOut (source : Text) : Text :=
  ((withEarlier [] source.rawLines).filterMap fun (above, raw) =>
    Declaration.spellLine? (above.filterMap Declaration.ofLine?) raw).flatten

namespace Declaration

/-- The name of a host as it stands on a line: without spaces, and without a
    start that makes the line another one. -/
def IsHostName (name : Text) : Prop :=
  ' ' ∉ name ∧ ∃ c rest, name = c :: rest ∧ isBlank c = false ∧ c ≠ '#' ∧ c ≠ '@'

theorem ofLine?_eq_host {front name rest : Text} (hfront : Text.Blank front)
    (hname : IsHostName name) (hrest : ¬ Text.Blank rest) :
    ofLine? (front ++ (name ++ ' ' :: rest)) = some (.host name (Text.segments rest)) := by
  obtain ⟨hspace, c, more, rfl, hc, hcomment, hgroup⟩ := hname
  have hblank : ¬ Text.Blank (' ' :: rest) :=
    fun hall => hrest (Text.blank_cons_iff.mp hall).2
  have htail : Text.trimEnd (' ' :: rest) = ' ' :: Text.trimEnd rest :=
    @Text.trimEnd_append [' '] rest hrest
  have htrim : Text.trim (front ++ (c :: more ++ ' ' :: rest)) =
      c :: more ++ ' ' :: Text.trimEnd rest := by
    have hstart : Text.trimStart (c :: more ++ ' ' :: rest) = c :: more ++ ' ' :: rest := by
      rw [Text.trimStart, List.cons_append, List.dropWhile_cons_of_neg (by simp [hc])]
    rw [Text.trim_blank_append hfront, Text.trim, hstart, Text.trimEnd_append hblank, htail]
  have hsegments : Text.segments (Text.trimEnd rest) = Text.segments rest := by
    obtain ⟨back, hback, hend⟩ := Text.exists_trimEnd_append rest
    rw [hend, Text.segments_append_blank hback, ← hend]
  have htext : ofText (c :: more ++ ' ' :: Text.trimEnd rest) =
      .host (c :: more) (Text.segments rest) := by
    rw [ofText.eq_2 _ (by simp [hgroup]),
      definition?_append_space hspace (List.cons_ne_nil c more), hsegments]
  rw [ofLine?_eq_some_iff, htrim]
  exact ⟨by simp, by simp [hcomment], htext⟩

/-- A host's line is, trimmed, the host's name, a space and more than blanks. -/
theorem exists_of_ofLine?_eq_host {raw name : Text} {segments : List Text}
    (hline : ofLine? raw = some (.host name segments)) :
    IsHostName name ∧ ∃ rest, Text.trim raw = name ++ ' ' :: rest ∧ ¬ Text.Blank rest ∧
      segments = Text.segments rest := by
  obtain ⟨-, hcomment, hline⟩ := ofLine?_eq_some_iff.mp hline
  unfold ofText at hline
  split at hline
  · next text hgroup =>
    cases hdefinition : definition? text <;> simp [hdefinition] at hline
  · next hgroup =>
    cases hdefinition : definition? (Text.trim raw) with
    | none => simp [hdefinition] at hline
    | some found =>
      simp only [hdefinition, Declaration.host.injEq] at hline
      obtain ⟨rfl, rfl⟩ := hline
      obtain ⟨rest, htext, hspace, hne, hsegments⟩ := definition?_eq_some_iff.mp hdefinition
      obtain ⟨c, more, hname⟩ := List.exists_cons_of_ne_nil hne
      have hcons : Text.trim raw = c :: (more ++ ' ' :: rest) := by
        rw [htext, hname, List.cons_append]
      refine ⟨⟨hspace, c, more, hname, Text.isBlank_of_trim_eq_cons hcons, ?_, ?_⟩,
        rest, htext, ?_, hsegments⟩
      · rintro rfl
        exact hcomment (by rw [hcons, List.head?_cons])
      · rintro rfl
        exact hgroup _ hcons
      · intro hblank
        exact Text.not_blank_of_getLast? (fun _ => Text.isBlank_of_getLast?_trim) htext
          (List.cons_ne_nil _ _) (Text.blank_cons_iff.mpr ⟨rfl, hblank⟩)

variable {earlier : List Declaration}

/-- A part that is spelled out has the spellings of its segment as segments. -/
private theorem segments_spellPart {part : Text} (hne : spellings earlier (Text.trim part) ≠ [])
    (hspellings : ∀ spelling ∈ spellings earlier (Text.trim part), spelling.IsSegment) :
    Text.segments (spellPart earlier part) = spellings earlier (Text.trim part) := by
  obtain ⟨front, back, hfront, hback, -, hmap⟩ := Text.exists_mapTrimmed_eq part
  rw [spellPart, hmap, Text.segments_append_blank hback, Text.segments_blank_append hfront,
    Text.segments_intercalate_isSegment hne hspellings]

/-- All segments of a line can be spelled out, and the spellings can stand on
    the line. -/
def Spells (earlier : List Declaration) (segments : List Text) : Prop :=
  ∀ segment ∈ segments, spellings earlier segment ≠ [] ∧
    ∀ spelling ∈ spellings earlier segment, spelling.IsSegment

private theorem segments_intercalate_spellPart {rest : Text}
    (hspells : Spells earlier (Text.segments rest)) :
    Text.segments ([','].intercalate ((rest.splitOn ',').map (spellPart earlier))) =
      (Text.segments rest).flatMap (spellings earlier) := by
  have hne : (rest.splitOn ',').map (spellPart earlier) ≠ [] := by simp
  rw [Text.segments_intercalate hne, List.flatMap_map, Text.segments, List.flatMap_map]
  apply List.flatMap_congr
  intro part hpart
  obtain ⟨hspelled, hspellings⟩ := hspells (Text.trim part) (List.mem_map_of_mem hpart)
  exact segments_spellPart hspelled hspellings

theorem spellText_eq {name rest : Text} (hname : ' ' ∉ name) :
    spellText earlier (name ++ ' ' :: rest) =
      name ++ ' ' :: [','].intercalate ((rest.splitOn ',').map (spellPart earlier)) := by
  rw [spellText, takeWhile_append_space hname, dropWhile_append_space hname, List.tail_cons]

/-- A host's line with its segments spelled out is the same host's, with the
    spellings for segments. -/
private theorem ofLine?_mapTrimmed_spellText {raw name : Text} {segments : List Text}
    (hline : ofLine? raw = some (.host name segments)) (hspells : Spells earlier segments) :
    ofLine? (raw.mapTrimmed (spellText earlier)) =
      some (.host name (segments.flatMap (spellings earlier))) := by
  obtain ⟨hname, rest, htrim, -, rfl⟩ := exists_of_ofLine?_eq_host hline
  obtain ⟨front, back, hfront, hback, -, hmap⟩ := Text.exists_mapTrimmed_eq raw
  have hsegments := segments_intercalate_spellPart hspells
  -- All blank, the rest would have one segment, an empty one, and no spelling is empty.
  have hnot : ¬ Text.Blank
      ([','].intercalate ((rest.splitOn ',').map (spellPart earlier)) ++ back) := by
    intro hblank
    have hfirst := Text.segments_of_blank fun c hmem => hblank c (List.mem_append_left back hmem)
    rw [hsegments] at hfirst
    obtain ⟨segment, hsegment, hnil⟩ :=
      List.mem_flatMap.mp (hfirst ▸ List.mem_singleton_self ([] : Text))
    exact ((hspells segment hsegment).2 [] hnil).ne_nil rfl
  have hlong : raw.mapTrimmed (spellText earlier) =
      front ++ (name ++ ' ' ::
        ([','].intercalate ((rest.splitOn ',').map (spellPart earlier)) ++ back)) := by
    rw [hmap, htrim, spellText_eq hname.1]
    simp only [List.append_assoc, List.cons_append]
  rw [hlong, ofLine?_eq_host hfront hname hnot, Text.segments_append_blank hback, hsegments]

/-- Spelling out a line spells out what it declares. -/
private theorem ofLine?_spellLine? {raw : Text}
    (hspells : ∀ name segments, ofLine? raw = some (.host name segments) →
      Spells earlier segments) :
    (spellLine? earlier raw).bind ofLine? = (ofLine? raw).bind (spelled? earlier) := by
  unfold spellLine?
  cases hline : ofLine? raw with
  | none => rw [Option.bind_some, hline, Option.bind_none]
  | some declaration =>
    cases declaration with
    | group name segments => rfl
    | malformed expected =>
      rw [Option.bind_some, hline]
      rfl
    | host name segments =>
      rw [Option.bind_some, ofLine?_mapTrimmed_spellText hline (hspells name segments hline)]
      rfl

/-- A line that is spelled out is a line, and ends with a line feed if it did
    before. -/
private theorem isLine_of_spellLine?_eq_some {raw spelled : Text} (hraw : Text.IsLine raw)
    (hspells : ∀ name segments, ofLine? raw = some (.host name segments) →
      Spells earlier segments)
    (hspelled : spellLine? earlier raw = some spelled) :
    Text.IsLine spelled ∧ (raw.getLast? = some '\n' → spelled.getLast? = some '\n') := by
  unfold spellLine? at hspelled
  split at hspelled
  · cases hspelled
  · next name segments hline =>
    rw [Option.some.injEq] at hspelled
    subst hspelled
    obtain ⟨hname, rest, htrim, -, rfl⟩ := exists_of_ofLine?_eq_host hline
    have hfree := Text.not_mem_trim_of_isLine hraw
    have htext := @spellText_eq earlier name rest hname.1
    rw [← htrim] at htext
    refine Text.isLine_mapTrimmed hraw (by simp [htrim]) (by simp [htext]) ?_
    rw [htrim, List.mem_append, List.mem_cons, not_or, not_or] at hfree
    rw [htext, List.mem_append, List.mem_cons, not_or, not_or]
    refine ⟨hfree.1, hfree.2.1, ?_⟩
    intro hmem
    rcases Text.of_mem_intercalate hmem with hcomma | ⟨spelledPart, hspelledPart, hmem⟩
    · exact absurd (List.mem_singleton.mp hcomma) (by decide)
    · obtain ⟨part, hpart, rfl⟩ := List.mem_map.mp hspelledPart
      rcases Text.of_mem_mapTrimmed hmem with hmem | hmem
      · exact hfree.2.2 (Text.subset_of_mem_splitOn hpart hmem)
      · have hsegment := hspells name _ hline (Text.trim part) (List.mem_map_of_mem hpart)
        rcases Text.of_mem_intercalate hmem with hcomma | ⟨spelling, hspelling, hmem⟩
        · exact absurd (List.mem_singleton.mp hcomma) (by decide)
        · exact (hsegment.2 spelling hspelling).no_feed hmem
  · cases hspelled
    exact ⟨hraw, id⟩

end Declaration

open Declaration

/-- A line with all lines above it declares something with all declarations
    above it. -/
private theorem Text.mem_withEarlier_declarations {source raw : Text} {above : List Text}
    {declaration : Declaration} (hmem : (above, raw) ∈ withEarlier [] source.rawLines)
    (hline : ofLine? raw = some declaration) :
    (above.filterMap ofLine?, declaration) ∈ withEarlier [] source.declarations := by
  obtain ⟨front, back, hlines, habove⟩ := mem_withEarlier_iff.mp hmem
  rw [List.nil_append] at habove
  subst habove
  refine mem_withEarlier_iff.mpr ⟨above.filterMap ofLine?, back.filterMap ofLine?, ?_, rfl⟩
  rw [declarations, hlines, List.filterMap_append, List.filterMap_cons_some hline]

/-- The declarations of a source with its groups spelled out are those of the
    source, spelled out. -/
theorem Text.declarations_spelledOut {source : Text}
    (hspells : ∀ earlier name segments,
      (earlier, .host name segments) ∈ withEarlier [] source.declarations →
        Spells earlier segments) :
    source.spelledOut.declarations =
      (withEarlier [] source.declarations).filterMap fun (earlier, declaration) =>
        declaration.spelled? earlier := by
  have hline : ∀ {above raw}, (above, raw) ∈ withEarlier [] source.rawLines →
      ∀ name segments, ofLine? raw = some (.host name segments) →
        Spells (above.filterMap ofLine?) segments :=
    fun hmem name segments hhost =>
      hspells _ name segments (mem_withEarlier_declarations hmem hhost)
  have hends := pairwise_rawLines source
  rw [← map_snd_withEarlier [] source.rawLines, List.pairwise_map] at hends
  have hlines : source.spelledOut.rawLines =
      (withEarlier [] source.rawLines).filterMap fun (above, raw) =>
        spellLine? (above.filterMap ofLine?) raw := by
    rw [spelledOut]
    apply rawLines_flatten
    · intro spelled hmem
      obtain ⟨⟨above, raw⟩, hmem, hspelled⟩ := List.mem_filterMap.mp hmem
      have hraw := isLine_of_mem_rawLines (mem_of_mem_withEarlier hmem)
      exact (isLine_of_spellLine?_eq_some hraw (hline hmem) hspelled).1
    · rw [List.pairwise_filterMap]
      refine hends.imp_of_mem ?_
      rintro ⟨above, raw⟩ later hmem - hend spelled hspelled - -
      have hraw := isLine_of_mem_rawLines (mem_of_mem_withEarlier hmem)
      exact (isLine_of_spellLine?_eq_some hraw (hline hmem) hspelled).2 hend
  have hearlier := withEarlier_filterMap ofLine? [] source.rawLines
  rw [List.filterMap_nil] at hearlier
  rw [declarations, hlines, List.filterMap_filterMap, declarations, hearlier,
    List.filterMap_filterMap]
  apply List.filterMap_congr
  rintro ⟨above, raw⟩ hmem
  rw [Option.bind_map]
  exact ofLine?_spellLine? (hline hmem)

end CheckPlan
