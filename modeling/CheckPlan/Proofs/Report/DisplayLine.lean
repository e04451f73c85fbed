import CheckPlan.Report.DisplayLine
import Mathlib.Data.List.Basic

namespace CheckPlan

namespace DisplayLine

/-- Whether a character ends a line with those behind it. A carriage return in
    front of a line feed leaves that to the line feed. -/
def endsBefore (c : Char) (rest : Text) : Bool :=
  isEnd c && !(c = '\r' && rest.head? = some '\n')

private theorem endsBefore_eq_true_iff {c : Char} {rest : Text} :
    endsBefore c rest = true ↔ isEnd c = true ∧ ¬ (c = '\r' ∧ rest.head? = some '\n') := by
  simp only [endsBefore, Bool.and_eq_true, Bool.not_eq_true', Bool.and_eq_false_iff,
    decide_eq_false_iff_not, not_and_or]

theorem endsBefore_feed (rest : Text) : endsBefore '\n' rest = true := rfl

private theorem rawLines_cons_of_endsBefore {c : Char} {rest : Text}
    (hend : endsBefore c rest = true) :
    rawLines (c :: rest) = [c] :: rawLines rest := by
  rw [rawLines, ← endsBefore, if_pos hend]

/-- The number of line ends in a text. -/
def lineEnds : Text → Nat
  | [] => 0
  | c :: rest => (if endsBefore c rest then 1 else 0) + lineEnds rest

/-- Only line feeds end lines of the text, a carriage return in front of a line
    feed included. -/
def EndsAtFeeds (text : Text) : Prop :=
  ∀ front c back, text = front ++ c :: back → isEnd c = true →
    c = '\n' ∨ c = '\r' ∧ back.head? = some '\n'

private theorem endsAtFeeds_cons_iff {c : Char} {rest : Text} :
    EndsAtFeeds (c :: rest) ↔
      (isEnd c = true → c = '\n' ∨ c = '\r' ∧ rest.head? = some '\n') ∧ EndsAtFeeds rest := by
  constructor
  · intro hfeeds
    refine ⟨hfeeds [] c rest rfl, fun front d back hrest => ?_⟩
    exact hfeeds (c :: front) d back (by rw [hrest, List.cons_append])
  · rintro ⟨hc, hrest⟩ front d back hsplit
    cases front with
    | nil =>
      cases hsplit
      exact hc
    | cons first more =>
      cases hsplit
      exact hrest more d back rfl

theorem EndsAtFeeds.of_append {before rest : Text} (hfeeds : EndsAtFeeds (before ++ rest))
    (hfree : '\n' ∉ rest) : EndsAtFeeds before := by
  intro front c back hsplit hend
  have hwhole : before ++ rest = front ++ c :: (back ++ rest) := by rw [hsplit]; simp
  rcases hfeeds front c (back ++ rest) hwhole hend with hc | ⟨hc, hhead⟩
  · exact .inl hc
  · refine .inr ⟨hc, ?_⟩
    cases back with
    | nil => exact absurd (List.mem_of_mem_head? hhead) hfree
    | cons d more => exact hhead

private theorem count_le_lineEnds (text : Text) : text.count '\n' ≤ lineEnds text := by
  induction text with
  | nil => exact Nat.le_refl 0
  | cons c rest ih =>
    by_cases hc : c = '\n'
    · rw [hc, lineEnds, List.count_cons_self, if_pos (endsBefore_feed rest)]
      omega
    · rw [lineEnds, List.count_cons_of_ne hc]
      omega

/-- A text has as many line ends as line feeds exactly when it has no other line
    end. -/
theorem lineEnds_eq_count_iff {text : Text} :
    lineEnds text = text.count '\n' ↔ EndsAtFeeds text := by
  induction text with
  | nil =>
    simp only [lineEnds, List.count_nil, true_iff]
    intro front c back hsplit
    simp at hsplit
  | cons c rest ih =>
    rw [endsAtFeeds_cons_iff, ← ih]
    by_cases hc : c = '\n'
    · rw [hc, lineEnds, List.count_cons_self, if_pos (endsBefore_feed rest)]
      constructor
      · intro heq
        exact ⟨fun _ => .inl rfl, by omega⟩
      · rintro ⟨-, heq⟩
        omega
    · rw [lineEnds, List.count_cons_of_ne hc]
      by_cases hend : endsBefore c rest = true
      · obtain ⟨his, hnot⟩ := endsBefore_eq_true_iff.mp hend
        have hle := count_le_lineEnds rest
        rw [if_pos hend]
        constructor
        · intro heq
          omega
        · rintro ⟨hfeed, -⟩
          exact absurd ((hfeed his).resolve_left hc) hnot
      · have hfeed : isEnd c = true → c = '\n' ∨ c = '\r' ∧ rest.head? = some '\n' := by
          intro his
          rw [endsBefore_eq_true_iff] at hend
          exact .inr (Classical.not_not.mp fun hnot => hend ⟨his, hnot⟩)
        rw [if_neg hend, Nat.zero_add]
        exact ⟨fun heq => ⟨hfeed, heq⟩, fun hboth => hboth.2⟩

instance (text : Text) : Decidable (EndsAtFeeds text) :=
  decidable_of_iff _ lineEnds_eq_count_iff

theorem flatten_rawLines (text : Text) : (rawLines text).flatten = text := by
  induction text with
  | nil => rfl
  | cons c rest ih =>
    rw [rawLines]
    split
    · rw [List.flatten_cons, ih, List.singleton_append]
    · split
      · next hnone =>
        rw [hnone] at ih
        simp [← ih]
      · next line more hmore =>
        rw [hmore] at ih
        simp [← ih]

private theorem rawLines_ne_nil {text : Text} (hne : text ≠ []) : rawLines text ≠ [] := by
  intro hnil
  have hflatten := flatten_rawLines text
  rw [hnil] at hflatten
  exact hne hflatten.symm

private theorem ne_nil_of_mem_rawLines {text part : Text} (hmem : part ∈ rawLines text) :
    part ≠ [] := by
  induction text generalizing part with
  | nil => cases hmem
  | cons c rest ih =>
    rw [rawLines] at hmem
    split at hmem
    · rcases List.mem_cons.mp hmem with rfl | hmem
      · exact List.cons_ne_nil _ _
      · exact ih hmem
    · split at hmem
      · rw [List.mem_singleton] at hmem
        exact hmem ▸ List.cons_ne_nil _ _
      · next line more hmore =>
        rw [hmore] at ih
        rcases List.mem_cons.mp hmem with rfl | hmem
        · exact List.cons_ne_nil _ _
        · exact ih (List.mem_cons_of_mem _ hmem)

/-- A character that ends no line belongs to the line of the next one. -/
private theorem exists_rawLines_cons {c : Char} {rest : Text} (hend : ¬ endsBefore c rest = true)
    {front : List Text} {part : Text} {back : List Text}
    (hlines : rawLines rest = front ++ part :: back) :
    ∃ first line, rawLines (c :: rest) = first ++ line :: back ∧ first.length = front.length ∧
      first.flatten.length ≤ front.flatten.length + 1 ∧
      (first.flatten ++ line).length = (front.flatten ++ part).length + 1 := by
  rw [rawLines, ← endsBefore, if_neg hend, hlines]
  cases front with
  | nil => exact ⟨[], c :: part, rfl, rfl, by simp, by simp⟩
  | cons head more => exact ⟨(c :: head) :: more, part, rfl, rfl, by simp, by simp⟩

/-- What is behind a text counts for its last character only. -/
private theorem endsBefore_append {c : Char} {before rest : Text}
    (hreturn : before = [] → c = '\r' → rest.head? ≠ some '\n') :
    endsBefore c (before ++ rest) = endsBefore c before := by
  cases before with
  | nil =>
    by_cases hc : c = '\r'
    · simp [endsBefore, hreturn rfl hc]
    · simp [endsBefore, hc]
  | cons d more => rfl

/-- A place in a source is on the line behind as many lines as there are line
    ends in front of the place. A place behind which there is nothing is on the
    last line, unless that has ended. -/
theorem exists_rawLines_append {before rest : Text}
    (hgoes : rest = [] → ∃ c, before.getLast? = some c ∧ isEnd c = false)
    (hreturn : before.getLast? = some '\r' → rest.head? ≠ some '\n') :
    ∃ front part back, rawLines (before ++ rest) = front ++ part :: back ∧
      front.length = lineEnds before ∧ front.flatten.length ≤ before.length ∧
      (before.length < (front.flatten ++ part).length ∨
        back = [] ∧ before.length = (front.flatten ++ part).length) := by
  induction before with
  | nil =>
    have hrest : rest ≠ [] := by
      intro hnil
      obtain ⟨c, hlast, -⟩ := hgoes hnil
      cases hlast
    obtain ⟨part, back, hlines⟩ := List.exists_cons_of_ne_nil (rawLines_ne_nil hrest)
    have hpart : part ∈ rawLines rest := by rw [hlines]; exact List.mem_cons_self
    refine ⟨[], part, back, hlines, rfl, Nat.le_refl 0, .inl ?_⟩
    exact List.length_pos_of_ne_nil (ne_nil_of_mem_rawLines hpart)
  | cons c more ih =>
    have hends : endsBefore c (more ++ rest) = endsBefore c more := by
      apply endsBefore_append
      rintro rfl rfl
      exact hreturn rfl
    by_cases hnone : more ++ rest = []
    · obtain ⟨rfl, rfl⟩ := List.append_eq_nil_iff.mp hnone
      obtain ⟨d, hlast, hd⟩ := hgoes rfl
      obtain rfl : c = d := Option.some.inj hlast
      exact ⟨[], [c], [], by simp [rawLines, hd], by simp [lineEnds, endsBefore, hd],
        Nat.zero_le _, .inr ⟨rfl, rfl⟩⟩
    · have hlater (d : Char) (hlast : more.getLast? = some d) : (c :: more).getLast? = some d := by
        rw [List.getLast?_cons, hlast, Option.getD_some]
      have hgoes' : rest = [] → ∃ d, more.getLast? = some d ∧ isEnd d = false := by
        intro hrest
        obtain ⟨d, hlast, hd⟩ := hgoes hrest
        have hmore : more ≠ [] := fun hmore => hnone (by rw [hmore, hrest, List.append_nil])
        exact ⟨d, by rwa [List.getLast?_cons_of_ne_nil hmore] at hlast, hd⟩
      obtain ⟨front, part, back, hlines, hcount, hstart, hstop⟩ :=
        ih hgoes' fun hlast => hreturn (hlater _ hlast)
      by_cases hend : endsBefore c more = true
      · refine ⟨[c] :: front, part, back, ?_, ?_, ?_, ?_⟩
        · rw [List.cons_append, rawLines_cons_of_endsBefore (hends.trans hend), hlines]
          rfl
        · rw [List.length_cons, hcount, lineEnds, if_pos hend, Nat.add_comm]
        · simpa using hstart
        · simpa using hstop
      · have hnot : ¬ endsBefore c (more ++ rest) = true := by rwa [hends]
        obtain ⟨first, line, hcons, hlength, hfirst, hline⟩ := exists_rawLines_cons hnot hlines
        refine ⟨first, line, back, hcons, ?_, ?_, ?_⟩
        · rw [hlength, hcount, lineEnds, if_neg hend, Nat.zero_add]
        · rw [List.length_cons]
          omega
        · rw [List.length_cons, hline]
          exact hstop.imp (by omega) (And.imp_right (by omega))

private theorem numberFrom_append (number offset : Nat) (front back : List Text) :
    numberFrom number offset (front ++ back) =
      numberFrom number offset front ++
        numberFrom (number + front.length) (offset + front.flatten.length) back := by
  induction front generalizing number offset with
  | nil => rfl
  | cons raw rest ih =>
    rw [List.cons_append, numberFrom, ih, numberFrom, List.cons_append, List.length_cons,
      List.flatten_cons, List.length_append]
    congr 3 <;> omega

private theorem le_offset_of_mem_numberFrom {number offset : Nat} {parts : List Text}
    {line : DisplayLine}
    (hmem : line ∈ numberFrom number offset parts) : offset ≤ line.offset := by
  induction parts generalizing number offset with
  | nil => cases hmem
  | cons raw rest ih =>
    rcases List.mem_cons.mp hmem with rfl | hmem
    · exact Nat.le_refl offset
    · exact Nat.le_trans (Nat.le_add_right _ _) (ih hmem)

/-- The line at a place is the one that reaches over it. -/
theorem at?_eq {source : Text} {front : List Text} {part : Text} {back : List Text} {offset : Nat}
    (hlines : rawLines source = front ++ part :: back) (hstart : front.flatten.length ≤ offset)
    (hstop : offset < (front.flatten ++ part).length ∨
      back = [] ∧ offset = (front.flatten ++ part).length) :
    at? source offset = some ⟨1 + front.length, front.flatten.length, part⟩ := by
  have hlength : source.length = (front.flatten ++ part).length + back.flatten.length := by
    rw [← flatten_rawLines source, hlines]
    simp [Nat.add_assoc]
  have hinside : ¬ source.length < offset := by omega
  have hbehind : ∀ line ∈ numberFrom (1 + front.length + 1) ((front.flatten ++ part).length) back,
      ¬ decide (line.offset ≤ offset) = true := by
    intro line hmem
    rcases hstop with hlt | ⟨rfl, -⟩
    · have hle := le_offset_of_mem_numberFrom hmem
      rw [decide_eq_true_eq]
      omega
    · cases hmem
  rw [at?, if_neg hinside, ofSource, hlines, numberFrom_append, numberFrom, Nat.zero_add,
    List.filter_append, List.filter_cons_of_pos (by simpa using hstart), ← List.length_append,
    List.filter_eq_nil_iff.mpr hbehind, List.getLast?_append, List.getLast?_singleton,
    Option.some_or]

/-- The number of the line at a place is one more than the number of line ends
    in front of the place. -/
theorem exists_at?_eq {before rest : Text}
    (hgoes : rest = [] → ∃ c, before.getLast? = some c ∧ isEnd c = false)
    (hreturn : before.getLast? = some '\r' → rest.head? ≠ some '\n') :
    ∃ line, at? (before ++ rest) before.length = some line ∧ line.number = 1 + lineEnds before := by
  obtain ⟨front, part, back, hlines, hcount, hstart, hstop⟩ := exists_rawLines_append hgoes hreturn
  exact ⟨_, at?_eq hlines hstart hstop, by rw [hcount]⟩

end DisplayLine

end CheckPlan
