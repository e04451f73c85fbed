import CheckPlan.Proofs.Text.Trim
import CheckPlan.Text.Piece

namespace CheckPlan

/-- The pieces between marks hold what splitting the text yields. -/
theorem Piece.map_text_splitFrom (mark : Char) (start : Nat) (text : Text) :
    (splitFrom mark start text).map Piece.text = text.splitOn mark := by
  induction text generalizing start with
  | nil => rfl
  | cons c rest ih =>
    rw [List.splitOn_cons_eq_if_modifyHead, ← ih (start + c.utf8Size)]
    by_cases hmark : c = mark
    · simp [splitFrom, hmark]
    · obtain ⟨more, hmore⟩ := exists_splitFrom_eq_cons mark (start + c.utf8Size) rest
      simp [splitFrom, hmark, hmore]

namespace Text

theorem of_mem_intercalate {separator : Text} {parts : List Text} {c : Char}
    (hmem : c ∈ separator.intercalate parts) : c ∈ separator ∨ ∃ part ∈ parts, c ∈ part := by
  induction parts with
  | nil => cases hmem
  | cons part rest ih =>
    by_cases hrest : rest = []
    · rw [hrest, List.intercalate_singleton] at hmem
      exact .inr ⟨part, List.mem_cons_self, hmem⟩
    · rw [List.intercalate_cons_of_ne_nil hrest, List.append_assoc, List.mem_append,
        List.mem_append] at hmem
      rcases hmem with hmem | hmem | hmem
      · exact .inr ⟨part, List.mem_cons_self, hmem⟩
      · exact .inl hmem
      · rcases ih hmem with hmem | ⟨later, hlater, hmem⟩
        · exact .inl hmem
        · exact .inr ⟨later, List.mem_cons_of_mem part hlater, hmem⟩

/-- The trimmed parts between commas. There is always at least one. -/
def segments (text : Text) : List Text :=
  (text.splitOn ',').map trim

theorem segments_ne_nil (text : Text) : segments text ≠ [] := by
  simp [segments]

theorem segments_of_not_mem {text : Text} (hcomma : ',' ∉ text) : segments text = [trim text] := by
  rw [segments, List.splitOn_eq_singleton hcomma, List.map_singleton]

theorem segments_append_comma (front back : Text) :
    segments (front ++ ',' :: back) = segments front ++ segments back := by
  rw [segments, List.splitOn_append_cons_self, List.map_append, segments, segments]

theorem segments_intercalate {parts : List Text} (hne : parts ≠ []) :
    segments ([','].intercalate parts) = parts.flatMap segments := by
  induction parts with
  | nil => exact absurd rfl hne
  | cons part rest ih =>
    by_cases hrest : rest = []
    · simp [hrest]
    · rw [List.intercalate_cons_of_ne_nil hrest, List.append_assoc, List.singleton_append,
        segments_append_comma, ih hrest, List.flatMap_cons]

theorem not_mem_of_blank {text : Text} (hblank : Blank text) {c : Char}
    (hc : isBlank c = false) : c ∉ text := by
  intro hmem
  rw [hblank c hmem] at hc
  cases hc

theorem segments_blank_append {front text : Text} (hfront : Blank front) :
    segments (front ++ text) = segments text := by
  have hfree : ',' ∉ front := not_mem_of_blank hfront rfl
  by_cases hcomma : ',' ∈ text
  · obtain ⟨first, rest, rfl, hfirst⟩ := List.eq_append_cons_of_mem hcomma
    have hboth : ',' ∉ front ++ first := by simp [hfree, hfirst]
    rw [← List.append_assoc, segments_append_comma, segments_append_comma,
      segments_of_not_mem hboth, segments_of_not_mem hfirst, trim_blank_append hfront]
  · have hboth : ',' ∉ front ++ text := by simp [hfree, hcomma]
    rw [segments_of_not_mem hboth, segments_of_not_mem hcomma, trim_blank_append hfront]

theorem segments_append_blank {text back : Text} (hback : Blank back) :
    segments (text ++ back) = segments text := by
  have hfree : ',' ∉ back := not_mem_of_blank hback rfl
  -- The blanks belong to the last part, which is reached by cutting off the parts before it.
  induction hlength : text.length using Nat.strong_induction_on generalizing text with
  | _ length ih =>
    by_cases hcomma : ',' ∈ text
    · obtain ⟨first, rest, rfl, -⟩ := List.eq_append_cons_of_mem hcomma
      have hshorter : rest.length < length := by
        rw [← hlength, List.length_append, List.length_cons]
        omega
      rw [List.append_assoc, List.cons_append, segments_append_comma, segments_append_comma,
        ih rest.length hshorter rfl]
    · have hboth : ',' ∉ text ++ back := by simp [hfree, hcomma]
      rw [segments_of_not_mem hboth, segments_of_not_mem hcomma, trim_append_blank_end hback]

theorem not_mem_of_mem_splitOn {mark : Char} {text part : Text} (hmem : part ∈ text.splitOn mark) :
    mark ∉ part := by
  induction text generalizing part with
  | nil =>
    rw [List.splitOn_nil, List.mem_singleton] at hmem
    simp [hmem]
  | cons c rest ih =>
    obtain ⟨first, more, hmore⟩ := List.exists_cons_of_ne_nil (List.splitOn_ne_nil mark rest)
    rw [List.splitOn_cons_eq_if_modifyHead, hmore] at hmem
    rw [hmore] at ih
    by_cases hmark : c = mark
    · rw [if_pos (by simp [hmark]), List.mem_cons] at hmem
      rcases hmem with rfl | hmem
      · simp
      · exact ih hmem
    · rw [if_neg (by simp [hmark]), List.modifyHead_cons, List.mem_cons] at hmem
      rcases hmem with rfl | hmem
      · rw [List.mem_cons, not_or]
        exact ⟨fun heq => hmark heq.symm, ih List.mem_cons_self⟩
      · exact ih (List.mem_cons_of_mem _ hmem)

theorem length_splitOn (mark : Char) (text : Text) :
    (text.splitOn mark).length = text.count mark + 1 := by
  induction text with
  | nil => simp
  | cons c rest ih =>
    rw [List.splitOn_cons_eq_if_modifyHead]
    by_cases hmark : c = mark
    · simp [hmark, ih]
    · simp [hmark, ih]

theorem subset_of_mem_splitOn {mark : Char} {text part : Text} (hmem : part ∈ text.splitOn mark) :
    part ⊆ text := by
  intro c hc
  rw [← @List.intercalate_splitOn _ text _ _ mark]
  obtain ⟨front, back, hsplit⟩ := List.append_of_mem hmem
  rw [hsplit]
  clear hsplit hmem
  induction front with
  | nil => cases back <;> simp [hc]
  | cons first rest ih =>
    rw [List.cons_append, List.intercalate_cons_of_ne_nil (by simp)]
    exact List.mem_append_right _ ih

/-- A segment holds characters of the text, none of them a comma, and is
    trimmed. -/
theorem of_mem_segments {text segment : Text} (hmem : segment ∈ segments text) :
    segment ⊆ text ∧ ',' ∉ segment ∧ trim segment = segment := by
  obtain ⟨part, hpart, rfl⟩ := List.mem_map.mp hmem
  refine ⟨?_, ?_, trim_trim part⟩
  · exact fun c hc => subset_of_mem_splitOn hpart (trim_subset part hc)
  · exact fun hcomma => not_mem_of_mem_splitOn hpart (trim_subset part hcomma)

/-- What can stand between two commas of a line. -/
structure IsSegment (segment : Text) : Prop where
  ne_nil : segment ≠ []
  no_comma : ',' ∉ segment
  no_feed : '\n' ∉ segment
  trimmed : trim segment = segment

theorem segments_of_blank {text : Text} (hblank : Blank text) : segments text = [[]] := by
  rw [segments_of_not_mem (not_mem_of_blank hblank rfl), trim_eq_nil_iff.mpr hblank]

theorem segments_intercalate_isSegment {parts : List Text} (hne : parts ≠ [])
    (hparts : ∀ part ∈ parts, part.IsSegment) : segments ([','].intercalate parts) = parts := by
  have heach : ∀ part ∈ parts, segments part = [part] := by
    intro part hmem
    rw [segments_of_not_mem (hparts part hmem).no_comma, (hparts part hmem).trimmed]
  calc segments ([','].intercalate parts)
      = parts.flatMap segments := segments_intercalate hne
    _ = parts.flatMap fun part => [part] := List.flatMap_congr heach
    _ = parts := List.flatMap_singleton' parts

end Text

end CheckPlan
