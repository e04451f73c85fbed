import CheckPlan.Proofs.Text.Trim
import CheckPlan.Text.Line

namespace CheckPlan

namespace Text

/-- The form of a line: it is not empty, and only its last character can be a
    line feed. -/
def IsLine (raw : Text) : Prop :=
  raw ≠ [] ∧ '\n' ∉ raw.dropLast

private theorem isLine_cons {c : Char} {raw : Text} (hc : c ≠ '\n') (hraw : IsLine raw) :
    IsLine (c :: raw) := by
  obtain ⟨hne, hnot⟩ := hraw
  refine ⟨List.cons_ne_nil _ _, ?_⟩
  rw [List.dropLast_cons_of_ne_nil hne, List.mem_cons]
  rintro (heq | hmem)
  · exact hc heq.symm
  · exact hnot hmem

theorem isLine_concat {text : Text} (hfree : '\n' ∉ text) : IsLine (text ++ ['\n']) :=
  ⟨List.append_ne_nil_of_right_ne_nil text (List.cons_ne_nil _ _),
    by rwa [List.dropLast_concat]⟩

theorem isLine_of_mem_rawLines {raw source : Text} (hmem : raw ∈ source.rawLines) : IsLine raw := by
  induction source generalizing raw with
  | nil => cases hmem
  | cons c rest ih =>
    rw [rawLines] at hmem
    split at hmem
    · rcases List.mem_cons.mp hmem with rfl | hmem
      · exact ⟨List.cons_ne_nil _ _, by simp⟩
      · exact ih hmem
    · next hc =>
      split at hmem
      · rw [List.mem_singleton] at hmem
        exact hmem ▸ ⟨List.cons_ne_nil _ _, by simp⟩
      · next line more hmore =>
        rw [hmore] at ih
        rcases List.mem_cons.mp hmem with rfl | hmem
        · exact isLine_cons hc (ih List.mem_cons_self)
        · exact ih (List.mem_cons_of_mem _ hmem)

/-- A line feed that ends a line is trimmed off, and there is no other one. -/
theorem not_mem_trim_of_isLine {raw : Text} (hline : IsLine raw) : '\n' ∉ trim raw := by
  obtain ⟨front, back, -, -, hraw, -⟩ := exists_mapTrimmed_eq raw
  intro hmem
  obtain ⟨before, after, hsplit⟩ := List.append_of_mem hmem
  by_cases hend : after ++ back = []
  · obtain ⟨hafter, -⟩ := List.append_eq_nil_iff.mp hend
    have hlast : (trim raw).getLast? = some '\n' := by rw [hsplit, hafter, List.getLast?_concat]
    have hblank := isBlank_of_getLast?_trim hlast
    cases hblank
  · have hwhole : raw = front ++ before ++ '\n' :: (after ++ back) := by
      rw [hraw, hsplit]
      simp
    have hdrop : '\n' ∈ raw.dropLast := by
      rw [hwhole, List.dropLast_append_of_ne_nil (List.cons_ne_nil _ _),
        List.dropLast_cons_of_ne_nil hend]
      simp
    exact hline.2 hdrop

/-- A line stays one, and keeps the line feed at its end, when what trimming
    leaves of it is changed for something without line feeds. -/
theorem isLine_mapTrimmed {raw : Text} (hline : IsLine raw) (hne : trim raw ≠ [])
    {change : Text → Text} (hchange : change (trim raw) ≠ []) (hfree : '\n' ∉ change (trim raw)) :
    IsLine (mapTrimmed change raw) ∧
      (raw.getLast? = some '\n' → (mapTrimmed change raw).getLast? = some '\n') := by
  obtain ⟨front, back, -, -, hraw, hmap⟩ := exists_mapTrimmed_eq raw
  have hnot := hline.2
  rw [hraw] at hnot
  rw [hmap]
  -- A line feed at the end is blank, so it can only be among the blanks at the back.
  by_cases hback : back = []
  · rw [hback, List.append_nil, List.dropLast_append_of_ne_nil hne] at hnot
    rw [hback, List.append_nil]
    refine ⟨⟨by simp [hchange], ?_⟩, ?_⟩
    · rw [List.dropLast_append_of_ne_nil hchange, List.mem_append, not_or]
      refine ⟨fun hmem => hnot (List.mem_append_left _ hmem), fun hmem => hfree ?_⟩
      exact List.dropLast_subset _ hmem
    · intro hlast
      rw [hraw, hback, List.append_nil, List.getLast?_append_of_ne_nil _ hne] at hlast
      have hblank := isBlank_of_getLast?_trim hlast
      cases hblank
  · rw [List.dropLast_append_of_ne_nil hback] at hnot
    refine ⟨⟨by simp [hback], ?_⟩, ?_⟩
    · rw [List.dropLast_append_of_ne_nil hback]
      simp only [List.mem_append, not_or] at hnot ⊢
      exact ⟨⟨hnot.1.1, hfree⟩, hnot.2⟩
    · intro hlast
      rw [hraw, List.getLast?_append_of_ne_nil _ hback] at hlast
      rw [List.getLast?_append_of_ne_nil _ hback, hlast]

private theorem rawLines_ne_nil {source : Text} (hne : source ≠ []) : source.rawLines ≠ [] := by
  intro hnil
  have hflatten := flatten_rawLines source
  rw [hnil] at hflatten
  exact hne hflatten.symm

/-- The text is empty or ends with a line feed, so that a line can start behind
    it. -/
def EndsLine (text : Text) : Prop :=
  ∀ c, text.getLast? = some c → c = '\n'

theorem endsLine_iff {text : Text} :
    text.EndsLine ↔ text = [] ∨ text.getLast? = some '\n' := by
  cases hlast : text.getLast? with
  | none => simp [EndsLine, List.getLast?_eq_none_iff.mp hlast]
  | some c =>
    have hne : text ≠ [] := by
      rintro rfl
      cases hlast
    simp [EndsLine, hlast, hne]

theorem endsLine_concat (text : Text) : (text ++ ['\n']).EndsLine :=
  endsLine_iff.mpr (.inr List.getLast?_concat)

instance (text : Text) : Decidable text.EndsLine :=
  decidable_of_iff _ endsLine_iff.symm

theorem EndsLine.append {front back : Text} (hfront : front.EndsLine) (hback : back.EndsLine) :
    (front ++ back).EndsLine := by
  intro c hlast
  by_cases hne : back = []
  · rw [hne, List.append_nil] at hlast
    exact hfront c hlast
  · rw [List.getLast?_append_of_ne_nil _ hne] at hlast
    exact hback c hlast

theorem EndsLine.of_suffix {text back : Text} (hend : text.EndsLine) (hsuffix : back <:+ text) :
    back.EndsLine := by
  obtain ⟨front, rfl⟩ := hsuffix
  intro c hlast
  apply hend c
  rw [List.getLast?_append, hlast, Option.some_or]

theorem endsLine_flatMap {α : Type} {parts : List α} {print : α → Text}
    (hparts : ∀ part ∈ parts, (print part).EndsLine) : EndsLine (parts.flatMap print) := by
  induction parts with
  | nil => exact fun c hlast => by cases hlast
  | cons part rest ih =>
    obtain ⟨hpart, hrest⟩ := List.forall_mem_cons.mp hparts
    exact hpart.append (ih hrest)

theorem endsLine_iff_of_not_mem {text : Text} (hfree : '\n' ∉ text) :
    text.EndsLine ↔ text = [] := by
  rw [endsLine_iff, or_iff_left]
  exact fun hlast => hfree (List.mem_of_getLast? hlast)

/-- What stands behind the last line feed of the text. -/
def openLine (text : Text) : Text :=
  text.rtakeWhile fun c => c ≠ '\n'

theorem not_mem_openLine (text : Text) : '\n' ∉ text.openLine := by
  intro hmem
  have hfeed := List.mem_rtakeWhile_imp hmem
  simp at hfeed

theorem eq_openLine_or (text : Text) :
    text = text.openLine ∨ ∃ front, text = front ++ '\n' :: text.openLine := by
  have hwhole : text.rdropWhile (fun c => c ≠ '\n') ++ text.openLine = text :=
    List.rdropWhile_append_rtakeWhile
  by_cases hfront : text.rdropWhile (fun c => c ≠ '\n') = []
  · rw [hfront, List.nil_append] at hwhole
    exact .inl hwhole.symm
  · have hlast := List.rdropWhile_last_not (fun c => decide (c ≠ '\n')) text hfront
    obtain ⟨front, c, hsplit⟩ := (List.eq_nil_or_concat _).resolve_left hfront
    simp only [hsplit, List.concat_eq_append, List.getLast_append_singleton, decide_eq_true_eq,
      not_not] at hlast
    refine .inr ⟨front, ?_⟩
    rw [hsplit, hlast, List.concat_eq_append, List.append_assoc, List.singleton_append] at hwhole
    exact hwhole.symm

/-- Behind a line feed, a text without one ends a line only if it is empty. -/
theorem endsLine_append_feed_iff {back : Text} (hfree : '\n' ∉ back) (front : Text) :
    (front ++ '\n' :: back).EndsLine ↔ back = [] := by
  constructor
  · intro hend
    rw [← endsLine_iff_of_not_mem hfree]
    exact hend.of_suffix ⟨front ++ ['\n'], by simp⟩
  · rintro rfl
    exact endsLine_concat front

theorem openLine_eq_nil_iff {text : Text} : text.openLine = [] ↔ text.EndsLine := by
  have hfree := not_mem_openLine text
  rcases eq_openLine_or text with htext | ⟨front, htext⟩
  · rw [← endsLine_iff_of_not_mem hfree, ← htext]
  · rw [← endsLine_append_feed_iff hfree front, ← htext]

/-- A text that ends with a line goes on behind a character that is no line feed. -/
theorem EndsLine.exists_rawLines_eq_cons {c : Char} {rest : Text} (hend : EndsLine (c :: rest))
    (hc : ¬ c = '\n') : ∃ line more, rawLines rest = line :: more := by
  apply List.exists_cons_of_ne_nil
  apply rawLines_ne_nil
  rintro rfl
  exact hc (hend c rfl)

/-- No line reaches over the end of a text that ends with a line. -/
theorem rawLines_append {front back : Text} (hend : front.EndsLine) :
    rawLines (front ++ back) = rawLines front ++ rawLines back := by
  induction front with
  | nil => rfl
  | cons c rest ih =>
    have hrest : rawLines (rest ++ back) = rawLines rest ++ rawLines back :=
      ih (hend.of_suffix (List.suffix_cons c rest))
    rw [List.cons_append, rawLines, rawLines, hrest]
    by_cases hc : c = '\n'
    · rw [if_pos hc, if_pos hc, List.cons_append]
    · obtain ⟨line, more, hmore⟩ := hend.exists_rawLines_eq_cons hc
      rw [if_neg hc, if_neg hc, hmore]
      rfl

theorem rawLines_of_isLine {raw : Text} (hline : IsLine raw) : rawLines raw = [raw] := by
  obtain ⟨hne, hnot⟩ := hline
  induction raw with
  | nil => exact absurd rfl hne
  | cons c rest ih =>
    by_cases hrest : rest = []
    · simp [hrest, rawLines]
    · rw [List.dropLast_cons_of_ne_nil hrest, List.mem_cons, not_or] at hnot
      have hc : ¬ c = '\n' := fun heq => hnot.1 heq.symm
      rw [rawLines, if_neg hc, ih hrest hnot.2]

/-- Every line in front of another one ends with a line feed. -/
theorem pairwise_rawLines (source : Text) :
    source.rawLines.Pairwise fun line _ => line.getLast? = some '\n' := by
  induction source with
  | nil => exact List.Pairwise.nil
  | cons c rest ih =>
    rw [rawLines]
    split
    · next hc => exact List.pairwise_cons.mpr ⟨fun _ _ => by simp [hc], ih⟩
    · split
      · exact List.pairwise_singleton _ _
      · next line more hmore =>
        rw [hmore, List.pairwise_cons] at ih
        refine List.pairwise_cons.mpr ⟨?_, ih.2⟩
        intro later hmem
        rw [List.getLast?_cons, ih.1 later hmem, Option.getD_some]

/-- Texts put together have the lines of each when all but the last one end with
    a line. -/
theorem rawLines_flatMap {α : Type} {parts : List α} {print : α → Text}
    (hends : parts.Pairwise fun part _ => (print part).EndsLine) :
    rawLines (parts.flatMap print) = parts.flatMap fun part => (print part).rawLines := by
  induction parts with
  | nil => rfl
  | cons part rest ih =>
    rw [List.pairwise_cons] at hends
    rw [List.flatMap_cons, List.flatMap_cons, ← ih hends.2]
    by_cases hlast : rest = []
    · rw [hlast, List.flatMap_nil, List.append_nil, rawLines, List.append_nil]
    · obtain ⟨next, more, rfl⟩ := List.exists_cons_of_ne_nil hlast
      exact rawLines_append (hends.1 next List.mem_cons_self)

/-- Lines put together are the lines of what they make up. -/
theorem rawLines_flatten {lines : List Text} (hlines : ∀ line ∈ lines, IsLine line)
    (hends : lines.Pairwise fun line _ => line.getLast? = some '\n') :
    rawLines lines.flatten = lines := by
  have hend : lines.Pairwise fun line _ => EndsLine (id line) :=
    hends.imp fun hlast => endsLine_iff.mpr (.inr hlast)
  have hsingle : (lines.flatMap fun line => rawLines (id line)) = lines.flatMap ([·]) := by
    apply List.flatMap_congr
    intro line hmem
    exact rawLines_of_isLine (hlines line hmem)
  rw [← List.flatMap_id, rawLines_flatMap hend, hsingle, List.flatMap_singleton']

/-- A text that ends with a line has as many lines as line feeds. -/
theorem length_rawLines {text : Text} (hend : text.EndsLine) :
    text.rawLines.length = text.count '\n' := by
  induction text with
  | nil => rfl
  | cons c rest ih =>
    have hrest : (rawLines rest).length = rest.count '\n' :=
      ih (hend.of_suffix (List.suffix_cons c rest))
    rw [rawLines]
    by_cases hc : c = '\n'
    · rw [if_pos hc, hc, List.length_cons, List.count_cons_self, hrest]
    · obtain ⟨line, more, hmore⟩ := hend.exists_rawLines_eq_cons hc
      rw [if_neg hc, hmore, List.length_cons, List.count_cons_of_ne hc, ← hrest, hmore,
        List.length_cons]

end Text

namespace Line

theorem map_raw_numberFrom (number offset : Nat) (parts : List Text) :
    (numberFrom number offset parts).map raw = parts := by
  induction parts generalizing number offset with
  | nil => rfl
  | cons part rest ih => rw [numberFrom, List.map_cons, ih]

@[simp] theorem map_raw_lines (source : Text) : source.lines.map raw = source.rawLines :=
  map_raw_numberFrom 1 0 source.rawLines

/-- Lines that follow others are numbered on, and start where the others end. -/
theorem numberFrom_append (number offset : Nat) (parts later : List Text) :
    numberFrom number offset (parts ++ later) =
      numberFrom number offset parts ++
        numberFrom (number + parts.length) (offset + Text.byteLength parts.flatten) later := by
  induction parts generalizing number offset with
  | nil => rfl
  | cons part rest ih =>
    rw [List.cons_append, numberFrom, ih, numberFrom, List.cons_append, List.flatten_cons,
      Text.byteLength_append, List.length_cons, Nat.add_assoc number, Nat.add_comm 1,
      Nat.add_assoc offset]

/-- What ends a line is blank, so trimming the line trims its text. -/
theorem trim_raw (line : Line) : Text.trim line.raw = Text.trim line.text := by
  obtain ⟨ending, hraw, hending⟩ := line.exists_raw_eq_text_append
  have hblank : Text.Blank ending := by
    intro c hmem
    rcases hending with rfl | rfl | ⟨rfl, -⟩
    · rw [List.mem_singleton.mp hmem]
      rfl
    · rcases List.mem_cons.mp hmem with rfl | hmem
      · rfl
      · rw [List.mem_singleton.mp hmem]
        rfl
    · cases hmem
  rw [hraw, Text.trim_append_blank_end hblank]

/-- A line that ends with a line feed alone has no carriage return in front of
    it. -/
theorem getLast?_text_ne {line : Line} (hraw : line.raw = line.text ++ ['\n']) :
    line.text.getLast? ≠ some '\r' := by
  unfold text at hraw ⊢
  split at hraw
  · next rest hreverse =>
    have hlength := congrArg List.length hreverse
    rw [hraw] at hlength
    simp at hlength
  · next rest hreturn hreverse =>
    intro hlast
    rw [List.getLast?_reverse, List.head?_eq_some_iff] at hlast
    obtain ⟨more, rfl⟩ := hlast
    exact hreturn more rfl
  · have hlength := congrArg List.length hraw
    simp at hlength

theorem number_of_getElem?_numberFrom {line : Line} {number offset : Nat} {parts : List Text}
    {index : Nat} (hget : (numberFrom number offset parts)[index]? = some line) :
    line.number = number + index := by
  induction parts generalizing number offset index with
  | nil => simp [numberFrom] at hget
  | cons part rest ih =>
    cases index with
    | zero =>
      rw [numberFrom, List.getElem?_cons_zero, Option.some.injEq] at hget
      rw [← hget, Nat.add_zero]
    | succ index =>
      rw [numberFrom, List.getElem?_cons_succ] at hget
      rw [ih hget]
      omega

/-- A line starts where those in front of it end. -/
theorem offset_of_getElem?_numberFrom {line : Line} {number offset : Nat} {parts : List Text}
    {index : Nat} (hget : (numberFrom number offset parts)[index]? = some line) :
    line.offset = offset + Text.byteLength (parts.take index).flatten := by
  induction parts generalizing number offset index with
  | nil => cases hget
  | cons part rest ih =>
    cases index with
    | zero =>
      cases hget
      rfl
    | succ index =>
      rw [ih hget, List.take_succ_cons, List.flatten_cons, Text.byteLength_append, Nat.add_assoc]

/-- What stands in front of a line is as many whole lines as its index says, and
    only the last line can be without a line feed. -/
theorem exists_of_getElem?_lines {line : Line} {source : Text} {index : Nat}
    (hget : source.lines[index]? = some line) :
    ∃ above below, source = above ++ line.raw ++ below ∧
      Text.byteLength above = line.offset ∧ above.EndsLine ∧ above.count '\n' = index ∧
      Text.IsLine line.raw ∧ (below ≠ [] → line.raw.getLast? = some '\n') := by
  have hraw : source.rawLines[index]? = some line.raw := by
    rw [← map_raw_lines, List.getElem?_map, hget, Option.map_some]
  obtain ⟨hlt, hpart⟩ := List.getElem?_eq_some_iff.mp hraw
  obtain ⟨front, back, hsplit, hlength, hoffset⟩ :
      ∃ front back, source.rawLines = front ++ line.raw :: back ∧ front.length = index ∧
        line.offset = 0 + Text.byteLength front.flatten :=
    ⟨source.rawLines.take index, source.rawLines.drop (index + 1),
      by rw [← hpart, ← List.drop_eq_getElem_cons hlt, List.take_append_drop],
      List.length_take_of_le (Nat.le_of_lt hlt), offset_of_getElem?_numberFrom hget⟩
  have hlines : ∀ raw ∈ front ++ line.raw :: back, Text.IsLine raw := by
    intro raw hmem
    rw [← hsplit] at hmem
    exact Text.isLine_of_mem_rawLines hmem
  have hends := Text.pairwise_rawLines source
  rw [hsplit, List.pairwise_append, List.pairwise_cons] at hends
  obtain ⟨hfront, ⟨hlast, -⟩, hfeeds⟩ := hends
  have habove : Text.EndsLine front.flatten := by
    rw [← List.flatMap_id]
    refine Text.endsLine_flatMap fun raw hmem => ?_
    exact Text.endsLine_iff.mpr (.inr (hfeeds raw hmem _ List.mem_cons_self))
  refine ⟨front.flatten, back.flatten, ?_, ?_, habove, ?_, ?_, ?_⟩
  · rw [← Text.flatten_rawLines source, hsplit, List.flatten_append, List.flatten_cons,
      List.append_assoc]
  · rw [hoffset, Nat.zero_add]
  · rw [← Text.length_rawLines habove, Text.rawLines_flatten _ hfront, hlength]
    intro raw hmem
    exact hlines raw (List.mem_append_left _ hmem)
  · exact hlines _ (List.mem_append_right _ List.mem_cons_self)
  · intro hbelow
    obtain ⟨next, more, rfl⟩ := List.exists_cons_of_ne_nil
      (show back ≠ [] by rintro rfl; exact hbelow rfl)
    exact hlast next List.mem_cons_self

/-- The number of a line counts the lines up to it. -/
theorem getElem?_lines_of_mem {line : Line} {source : Text} (hmem : line ∈ source.lines) :
    1 ≤ line.number ∧ source.lines[line.number - 1]? = some line := by
  obtain ⟨index, hget⟩ := List.mem_iff_getElem?.mp hmem
  have hnumber : line.number = 1 + index := number_of_getElem?_numberFrom hget
  refine ⟨by omega, ?_⟩
  rw [hnumber, Nat.add_sub_cancel_left]
  exact hget

private theorem le_offset_of_mem_numberFrom {line : Line} {number offset : Nat} {parts : List Text}
    (hmem : line ∈ numberFrom number offset parts) : offset ≤ line.offset := by
  induction parts generalizing number offset with
  | nil => cases hmem
  | cons part rest ih =>
    rw [numberFrom, List.mem_cons] at hmem
    rcases hmem with rfl | hmem
    · exact Nat.le_refl offset
    · have hle := ih hmem
      omega

private theorem le_number_of_mem_numberFrom {line : Line} {number offset : Nat} {parts : List Text}
    (hmem : line ∈ numberFrom number offset parts) : number ≤ line.number := by
  obtain ⟨index, hget⟩ := List.mem_iff_getElem?.mp hmem
  rw [number_of_getElem?_numberFrom hget]
  exact Nat.le_add_right number index

theorem pairwise_number_numberFrom (number offset : Nat) (parts : List Text) :
    (numberFrom number offset parts).Pairwise fun left right => left.number < right.number := by
  induction parts generalizing number offset with
  | nil => exact List.Pairwise.nil
  | cons part rest ih =>
    rw [numberFrom, List.pairwise_cons]
    exact ⟨fun later hmem => le_number_of_mem_numberFrom hmem, ih _ _⟩

/-- The text of a line that ends with a line feed stops in front of it. -/
private theorem stop_span_lt {line : Line} (hend : line.raw.getLast? = some '\n') :
    line.span.stop < line.offset + Text.byteLength line.raw := by
  obtain ⟨ending, hraw, hending⟩ := line.exists_raw_eq_text_append
  have hpositive : 0 < Text.byteLength ending := by
    rcases hending with rfl | rfl | ⟨-, hnot⟩
    · decide
    · decide
    · exact absurd hend hnot
  simp only [span, content, Piece.span, hraw, Text.byteLength_append]
  omega

private theorem pairwise_numberFrom {number offset : Nat} {parts : List Text}
    (hends : parts.Pairwise fun part _ => part.getLast? = some '\n') :
    (numberFrom number offset parts).Pairwise fun left right => left.span.stop < right.offset := by
  induction parts generalizing number offset with
  | nil => exact List.Pairwise.nil
  | cons part rest ih =>
    rw [List.pairwise_cons] at hends
    rw [numberFrom, List.pairwise_cons]
    refine ⟨?_, ih hends.2⟩
    intro later hmem
    have hne : rest ≠ [] := by
      rintro rfl
      cases hmem
    obtain ⟨next, more, rfl⟩ := List.exists_cons_of_ne_nil hne
    have hstop := @stop_span_lt ⟨number, offset, part⟩ (hends.1 next List.mem_cons_self)
    have hle := le_offset_of_mem_numberFrom hmem
    exact Nat.lt_of_lt_of_le hstop hle

/-- The lines of a source come in order, each behind the text of those before
    it and the line feed that ends it. -/
theorem pairwise_lines (source : Text) :
    source.lines.Pairwise fun left right => left.span.stop < right.offset :=
  pairwise_numberFrom (Text.pairwise_rawLines source)

end Line

/-- Lines behind a text that ends with a line leave its own lines alone. -/
theorem Text.lines_append {front back : Text} (hend : front.EndsLine) :
    Text.lines (front ++ back) =
      front.lines ++
        Line.numberFrom (1 + front.rawLines.length) (Text.byteLength front) back.rawLines := by
  rw [lines, rawLines_append hend, Line.numberFrom_append, flatten_rawLines, Nat.zero_add, lines]

end CheckPlan
