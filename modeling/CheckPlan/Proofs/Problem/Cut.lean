import CheckPlan.Proofs.Problem.Place
import CheckPlan.Proofs.Text.Bytes

namespace CheckPlan

/-- The text of a line holds no line feed. -/
private theorem Line.not_mem_text {line : Line} (hline : Text.IsLine line.raw) :
    '\n' ∉ line.text := by
  obtain ⟨ending, hraw, hending⟩ := line.exists_raw_eq_text_append
  have hfree := hline.2
  rw [hraw] at hfree
  intro hmem
  by_cases hnone : ending = []
  · have hlast : line.raw.getLast? ≠ some '\n' := by
      rcases hending with rfl | rfl | ⟨-, hlast⟩
      · cases hnone
      · cases hnone
      · exact hlast
    rw [hnone, List.append_nil] at hraw hfree
    obtain ⟨front, c, hconcat⟩ := (List.eq_nil_or_concat line.text).resolve_left
      (List.ne_nil_of_mem hmem)
    rw [List.concat_eq_append] at hconcat
    rw [hconcat, List.dropLast_concat] at hfree
    rw [hraw, hconcat, List.getLast?_concat] at hlast
    rw [hconcat, List.mem_append, List.mem_singleton] at hmem
    exact hmem.elim hfree fun hc => hlast (by rw [hc])
  · rw [List.dropLast_append_of_ne_nil hnone] at hfree
    exact hfree (List.mem_append_left _ hmem)

private theorem Text.eq_nil_of_head?_append {front back : Text} (hfree : '\n' ∉ front)
    (hhead : (front ++ back).head? = some '\n') : front = [] := by
  cases front with
  | nil => rfl
  | cons c rest => exact absurd (Option.some.inj hhead ▸ List.mem_cons_self) hfree

namespace Problem

/-- The source is cut at the start and at the end of the problem's span. -/
structure Cuts (problem : Problem) (source before text after : Text) : Prop where
  source_eq : source = before ++ text ++ after
  start : problem.span.start = Text.byteLength before
  stop : problem.span.stop = Text.byteLength (before ++ text)

/-- A span cuts a source in one way only. -/
theorem Cuts.unique {problem : Problem} {source before text after before' text' after' : Text}
    (hcuts : problem.Cuts source before text after)
    (hcuts' : problem.Cuts source before' text' after') : before' = before ∧ text' = text := by
  obtain ⟨hsource, hstart, hstop⟩ := hcuts
  obtain ⟨hsource', hstart', hstop'⟩ := hcuts'
  have hbefore : before' = before := by
    refine @Text.eq_of_byteLength_eq _ _ source ⟨text' ++ after', ?_⟩ ⟨text ++ after, ?_⟩
      (hstart'.symm.trans hstart)
    · rw [hsource', List.append_assoc]
    · rw [hsource, List.append_assoc]
  have htext : before' ++ text' = before ++ text :=
    @Text.eq_of_byteLength_eq _ _ source ⟨after', hsource'.symm⟩ ⟨after, hsource.symm⟩
      (hstop'.symm.trans hstop)
  rw [hbefore] at htext
  exact ⟨hbefore, List.append_cancel_left htext⟩

/-- The text between two cuts is on the line with the number, where the cut in
    front is neither behind the end of the source nor inside a line end. -/
structure OnNumbered (number : Nat) (before text after : Text) : Prop where
  number : number = 1 + before.count '\n'
  no_feed : '\n' ∉ text
  goes_on : before.EndsLine → text ++ after ≠ []
  no_return : before.getLast? = some '\r' → (text ++ after).head? ≠ some '\n'

/-- What is cut out of the text of a line is on the line. -/
private theorem onNumbered_of_line {above front text back below after : Text} {line : Line}
    (hends : above.EndsLine) (hline : Text.IsLine line.raw)
    (hbelow : below ≠ [] → line.raw.getLast? = some '\n')
    (htext : line.text = front ++ text ++ back)
    (hafter : line.raw ++ below = front ++ text ++ after) :
    OnNumbered (1 + above.count '\n') (above ++ front) text after := by
  obtain ⟨ending, hraw, hending⟩ := line.exists_raw_eq_text_append
  obtain rfl : after = back ++ (ending ++ below) := by
    rw [hraw, htext] at hafter
    simpa only [List.append_assoc, List.append_cancel_left_eq] using hafter.symm
  have hfree := Line.not_mem_text hline
  simp only [htext, List.mem_append, not_or] at hfree
  obtain ⟨⟨hfront, hcut⟩, hback⟩ := hfree
  refine ⟨?_, hcut, ?_, ?_⟩
  · rw [List.count_append, List.count_eq_zero.mpr hfront, Nat.add_zero]
  · intro hend hnone
    have hnofront : front = [] :=
      (Text.endsLine_iff_of_not_mem hfront).mp (hend.of_suffix ⟨above, rfl⟩)
    rw [hnofront, List.nil_append, hnone] at hafter
    exact hline.1 (List.append_eq_nil_iff.mp hafter).1
  · intro hlast hhead
    obtain rfl := Text.eq_nil_of_head?_append hcut hhead
    obtain rfl := Text.eq_nil_of_head?_append hback hhead
    rw [List.append_nil, List.append_nil] at htext
    rcases hending with rfl | rfl | ⟨rfl, hnofeed⟩
    · by_cases hnone : front = []
      · rw [hnone, List.append_nil] at hlast
        cases hends _ hlast
      · rw [List.getLast?_append_of_ne_nil _ hnone, ← htext] at hlast
        exact Line.getLast?_text_ne hraw hlast
    · cases hhead
    · refine hnofeed (hbelow ?_)
      rintro rfl
      cases hhead

/-- A problem that points into a source cuts it around a text on its line. -/
theorem PointsInto.exists_cuts {source : Text} {problem : Problem}
    (hpoints : problem.PointsInto source) :
    ∃ before text after, problem.Cuts source before text after ∧
      OnNumbered problem.line before text after := by
  obtain ⟨line, text, hone, hget, hstart, hstop, hspan, hslice, -⟩ := hpoints
  obtain ⟨before, after, hsource, hbefore, -⟩ := Text.slice?_eq_some_iff.mp hslice
  obtain ⟨above, below, hlines, habove, hends, hcount, hline, hbelow⟩ :=
    Line.exists_of_getElem?_lines hget
  obtain ⟨ending, hraw, -⟩ := line.exists_raw_eq_text_append
  simp only [Line.span, Line.content, Piece.span] at hstart hstop
  obtain ⟨front, rfl⟩ : above <+: before := by
    refine @Text.prefix_of_byteLength_le above before source ⟨line.raw ++ below, ?_⟩
      ⟨text ++ after, ?_⟩ (by omega)
    · rw [← List.append_assoc, ← hlines]
    · rw [hsource, List.append_assoc]
  obtain ⟨back, hback⟩ : above ++ front ++ text <+: above ++ line.text := by
    refine @Text.prefix_of_byteLength_le _ _ source ⟨after, hsource.symm⟩ ⟨ending ++ below, ?_⟩ ?_
    · rw [hlines, hraw]
      simp only [List.append_assoc]
    · rw [Text.byteLength_append, Text.byteLength_append above line.text]
      omega
  have htext : line.text = front ++ text ++ back := by
    simpa only [List.append_assoc, List.append_cancel_left_eq] using hback.symm
  have hafter : line.raw ++ below = front ++ text ++ after := by
    rw [hlines] at hsource
    simpa only [List.append_assoc, List.append_cancel_left_eq] using hsource
  refine ⟨above ++ front, text, after, ⟨hsource, hbefore.symm, ?_⟩, ?_⟩
  · rw [hspan, Text.byteLength_append, hbefore]
  · rw [← Nat.add_sub_cancel' hone, ← hcount]
    exact onNumbered_of_line hends hline hbelow htext hafter

end Problem

end CheckPlan
