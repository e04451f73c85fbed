import CheckPlan.Proofs.Problem.Cut
import CheckPlan.Proofs.Problem.Located
import CheckPlan.Proofs.Report.DisplayLine
import CheckPlan.Report.Basic

namespace CheckPlan

namespace Excerpt

/-- The columns from one up to another one, of characters whose first column is
    given, hold what is cut out there. -/
private theorem map_fst_filter_zipIdx (chars : Text) (first start stop : Nat) :
    ((chars.zipIdx first).filter fun (_, column) => start ≤ column && column < stop).map Prod.fst =
      (chars.take (stop - first)).drop (start - first) := by
  induction chars generalizing first with
  | nil => simp
  | cons c rest ih =>
    rw [List.zipIdx_cons]
    by_cases hstop : first < stop
    · have htake : stop - first = stop - (first + 1) + 1 := by omega
      rw [htake, List.take_succ_cons]
      by_cases hstart : start ≤ first
      · have hnone : start - first = 0 := by omega
        have hnext : start - (first + 1) = 0 := by omega
        rw [List.filter_cons_of_pos (by simp [hstart, hstop]), List.map_cons, ih, hnone, hnext]
        rfl
      · have hdrop : start - first = start - (first + 1) + 1 := by omega
        rw [List.filter_cons_of_neg (by simp [hstart]), ih, hdrop, List.drop_succ_cons]
    · have hnone : stop - first = 0 := by omega
      have hnext : stop - (first + 1) = 0 := by omega
      rw [List.filter_cons_of_neg (by simp [hstop]), ih, hnone, hnext]
      simp

private theorem markedOn_eq {excerpt : Excerpt} {line : DisplayLine}
    (hstart : line.offset ≤ excerpt.start) :
    excerpt.markedOn line =
      (line.text.take (excerpt.stop - line.offset)).drop (excerpt.start - line.offset) := by
  rw [← Nat.sub_zero (excerpt.stop - line.offset), ← Nat.sub_zero (excerpt.start - line.offset),
    ← map_fst_filter_zipIdx, markedOn]
  congr 2
  funext ⟨c, column⟩
  simp only [marks]
  congr 2 <;> (rw [eq_iff_iff]; omega)

/-- Only blanks at the end of a line are not marked with what is cut out of the
    line. -/
private theorem exists_markedOn_append {excerpt : Excerpt} {line : DisplayLine}
    {front text back : Text}
    (hraw : line.raw = front ++ text ++ back)
    (hstart : excerpt.start = line.offset + front.length)
    (hstop : excerpt.stop = line.offset + (front ++ text).length) :
    ∃ blank, Text.Blank blank ∧ excerpt.markedOn line ++ blank = text := by
  obtain ⟨trimmed, hblank, hline⟩ := Text.exists_trimEnd_append line.raw
  have hcut : (line.raw.take (front ++ text).length).drop front.length = text := by
    rw [hraw, List.take_left, List.drop_left]
  have hmarked : excerpt.markedOn line =
      ((Text.trimEnd line.raw).take (front ++ text).length).drop front.length := by
    rw [markedOn_eq (by omega), hstart, hstop, Nat.add_sub_cancel_left, Nat.add_sub_cancel_left,
      DisplayLine.text]
  rw [hline, List.take_append, List.drop_append, ← hmarked] at hcut
  exact ⟨_, fun c hmem => hblank c (List.mem_of_mem_take (List.mem_of_mem_drop hmem)), hcut⟩

/-- An excerpt shows a text on the line with a number: all marks are on that line
    and none is left out, and what is marked of the source are the characters
    behind `before` that make up the text. Blanks at the end of a line are not
    shown. -/
structure Shows (excerpt : Excerpt) (number : Nat) (before text : Text) : Prop where
  number : excerpt.first.number = number
  isInline : excerpt.isInline = true
  fits : excerpt.fits = true
  start : excerpt.start = before.length
  stop : excerpt.stop = (before ++ text).length
  marked : ∃ blank, Text.Blank blank ∧ excerpt.markedOn excerpt.first ++ blank = text

end Excerpt

namespace Problem

/-- A text and what is in front of it are counted alike in bytes and characters,
    and in line feeds and display lines. -/
structure CountedAlike (before text : Text) : Prop where
  byte : ∀ c ∈ before ++ text, c.utf8Size = 1
  feed : DisplayLine.EndsAtFeeds (before ++ text.dropLast)

namespace OnNumbered

variable {number : Nat} {before text after : Text}

/-- The last character of the text is on the same line. -/
theorem exists_last (hon : OnNumbered number before text after) :
    ∃ last, text = text.dropLast ++ last ∧
      OnNumbered number (before ++ text.dropLast) last after := by
  rcases List.eq_nil_or_concat text with rfl | ⟨init, c, rfl⟩
  · exact ⟨[], rfl, by rwa [List.dropLast_nil, List.append_nil]⟩
  · have hfree := hon.no_feed
    rw [List.concat_eq_append, List.mem_append, List.mem_singleton, not_or] at hfree
    rw [List.concat_eq_append, List.dropLast_concat]
    refine ⟨[c], rfl, ?_, ?_, fun _ => List.cons_ne_nil _ _, ?_⟩
    · rw [hon.number, List.count_append, List.count_eq_zero.mpr hfree.1, Nat.add_zero]
    · rw [List.mem_singleton]
      exact hfree.2
    · rintro - hhead
      exact hfree.2 (Option.some.inj hhead).symm

/-- Where only line feeds end lines, a cut without anything behind it is on the
    last line. -/
private theorem not_isEnd (hon : OnNumbered number before text after)
    (hfeed : DisplayLine.EndsAtFeeds before) (hnone : text ++ after = []) :
    ∃ c, before.getLast? = some c ∧ DisplayLine.isEnd c = false := by
  have hopen : ¬ before.EndsLine := fun hend => hon.goes_on hend hnone
  obtain ⟨c, hopen⟩ := not_forall.mp hopen
  obtain ⟨hlast, hc⟩ := Classical.not_imp.mp hopen
  obtain ⟨front, hfront⟩ := List.getLast?_eq_some_iff.mp hlast
  refine ⟨c, hlast, Bool.eq_false_iff.mpr fun hend => ?_⟩
  rcases hfeed front c [] hfront hend with rfl | ⟨-, hhead⟩
  · exact hc rfl
  · cases hhead

/-- Where only line feeds end lines, the display line of a cut has the number of
    the line. -/
private theorem exists_rawLines (hon : OnNumbered number before text after)
    (hfeed : DisplayLine.EndsAtFeeds before) :
    ∃ front part back, DisplayLine.rawLines (before ++ (text ++ after)) = front ++ part :: back ∧
      1 + front.length = number ∧ front.flatten.length ≤ before.length ∧
      (before.length < (front.flatten ++ part).length ∨
        back = [] ∧ before.length = (front.flatten ++ part).length) := by
  obtain ⟨front, part, back, hlines, hcount, hreach⟩ :=
    DisplayLine.exists_rawLines_append (hon.not_isEnd hfeed) hon.no_return
  refine ⟨front, part, back, hlines, ?_, hreach⟩
  rw [hcount, DisplayLine.lineEnds_eq_count_iff.mpr hfeed, hon.number]

/-- Where only line feeds end lines, both ends of the text are on the display
    line with the number, which holds all of the text. -/
private theorem exists_line (hon : OnNumbered number before text after)
    (hfeed : DisplayLine.EndsAtFeeds (before ++ text.dropLast)) :
    ∃ line front back, line.number = number ∧ line.raw = front ++ text ++ back ∧
      before.length = line.offset + front.length ∧
      DisplayLine.at? (before ++ text ++ after) before.length = some line ∧
      DisplayLine.at? (before ++ text ++ after) (before ++ text.dropLast).length = some line := by
  have hfree : '\n' ∉ text.dropLast := fun hmem => hon.no_feed (List.mem_of_mem_dropLast hmem)
  obtain ⟨last, hlast, honlast⟩ := hon.exists_last
  obtain ⟨above, part, below, hlines, hnumber, habove, hreach⟩ :=
    hon.exists_rawLines (hfeed.of_append hfree)
  obtain ⟨above', part', below', hlines', hnumber', habove', hreach'⟩ :=
    honlast.exists_rawLines hfeed
  have hwhole : before ++ text.dropLast ++ (last ++ after) = before ++ (text ++ after) := by
    conv_rhs => rw [hlast]
    simp only [List.append_assoc]
  -- Both lines have the number, so they are the same part of the source.
  rw [hwhole, hlines] at hlines'
  obtain ⟨rfl, hparts⟩ := List.append_inj hlines' (by omega)
  obtain ⟨rfl, rfl⟩ := List.cons.inj hparts
  have hsource : before ++ text ++ after = above.flatten ++ part ++ below.flatten := by
    rw [List.append_assoc, ← DisplayLine.flatten_rawLines (before ++ _), hlines]
    simp
  obtain ⟨front, rfl⟩ : above.flatten <+: before := by
    refine List.prefix_of_prefix_length_le ?_ ⟨text ++ after, rfl⟩ habove
    exact ⟨part ++ below.flatten, by rw [← List.append_assoc, ← hsource, List.append_assoc]⟩
  obtain ⟨back, hback⟩ : above.flatten ++ front ++ text <+: above.flatten ++ part := by
    refine List.prefix_of_prefix_length_le ⟨after, rfl⟩ ⟨below.flatten, hsource.symm⟩ ?_
    have hlength := congrArg List.length hsource
    simp only [List.length_append, List.length_dropLast] at hlength hreach' ⊢
    rcases hreach' with hlt | ⟨rfl, hend⟩
    · omega
    · simp at hlength
      omega
  refine ⟨⟨1 + above.length, above.flatten.length, part⟩, front, back, hnumber, ?_, ?_, ?_, ?_⟩
  · simpa only [List.append_assoc, List.append_cancel_left_eq] using hback.symm
  · rw [List.length_append]
  · rw [List.append_assoc]
    exact DisplayLine.at?_eq hlines habove hreach
  · rw [List.append_assoc]
    exact DisplayLine.at?_eq hlines habove' hreach'

end OnNumbered

/-- A text that is counted alike is shown. -/
private theorem Cuts.exists_shows {problem : Problem} {source before text after : Text}
    (hcuts : problem.Cuts source before text after)
    (hon : OnNumbered problem.line before text after) (halike : CountedAlike before text) :
    ∃ excerpt, Excerpt.ofSpan? source problem.span = some excerpt ∧
      excerpt.Shows problem.line before text := by
  obtain ⟨rfl, hstart, hstop⟩ := hcuts
  obtain ⟨line, front, back, hnumber, hraw, hoffset, hfirst, hlast⟩ := hon.exists_line halike.feed
  have hbytes : Text.byteLength before = before.length :=
    Text.byteLength_eq_length_iff.mpr fun c hmem => halike.byte c (List.mem_append_left _ hmem)
  rw [hbytes] at hstart
  rw [Text.byteLength_eq_length_iff.mpr halike.byte] at hstop
  have hend : max before.length ((before ++ text).length - 1) =
      (before ++ text.dropLast).length := by
    simp only [List.length_append, List.length_dropLast]
    omega
  have hreach : (before ++ text).length = line.offset + (front ++ text).length := by
    simp only [List.length_append]
    omega
  refine ⟨⟨line, line, before.length, (before ++ text).length⟩, ?_, hnumber, ?_, ?_, rfl, rfl, ?_⟩
  · rw [Excerpt.ofSpan?, hstart, hstop, hend, hfirst, hlast]
    rfl
  · simp [Excerpt.isInline]
  · simp [Excerpt.fits, hraw, hoffset, Nat.add_assoc]
  · exact Excerpt.exists_markedOn_append hraw hoffset hreach

/-- A text that is shown, and has at least one character, is counted alike. -/
private theorem Cuts.countedAlike {problem : Problem} {source before text after : Text}
    (hcuts : problem.Cuts source before text after)
    (hon : OnNumbered problem.line before text after) (hne : text ≠ []) {excerpt : Excerpt}
    (hexcerpt : Excerpt.ofSpan? source problem.span = some excerpt)
    (hshows : excerpt.Shows problem.line before text) : CountedAlike before text := by
  obtain ⟨rfl, hstart, hstop⟩ := hcuts
  obtain ⟨first, -, hexcerpt⟩ := Option.bind_eq_some_iff.mp hexcerpt
  obtain ⟨final, hfinal, hexcerpt⟩ := Option.bind_eq_some_iff.mp hexcerpt
  obtain rfl := Option.some.inj hexcerpt
  have hnumber : first.number = problem.line := hshows.number
  have hsame : first.number = final.number := by simpa [Excerpt.isInline] using hshows.isInline
  have hfrom : problem.span.start = before.length := hshows.start
  have hupto : problem.span.stop = (before ++ text).length := hshows.stop
  refine ⟨?_, ?_⟩
  · rw [← Text.byteLength_eq_length_iff, ← hstop]
    exact hupto
  · have hend : max problem.span.start (problem.span.stop - 1) =
        (before ++ text.dropLast).length := by
      have hpositive := List.length_pos_of_ne_nil hne
      simp only [List.length_append, List.length_dropLast] at hfrom hupto ⊢
      omega
    obtain ⟨last, hlast, honlast⟩ := hon.exists_last
    have hbehind : last ++ after ≠ [] := by
      intro hnone
      rw [(List.append_eq_nil_iff.mp hnone).1, List.append_nil] at hlast
      have hlength := congrArg List.length hlast
      have hpositive := List.length_pos_of_ne_nil hne
      rw [List.length_dropLast] at hlength
      omega
    obtain ⟨line, hline, hcount⟩ :=
      DisplayLine.exists_at?_eq (fun hnone => absurd hnone hbehind) honlast.no_return
    have hwhole : before ++ text.dropLast ++ (last ++ after) = before ++ text ++ after := by
      conv_rhs => rw [hlast]
      simp only [List.append_assoc]
    rw [hwhole, ← hend, hfinal, Option.some.injEq] at hline
    have hcounted := honlast.number
    rw [← DisplayLine.lineEnds_eq_count_iff]
    rw [← hline] at hcount
    omega

/-- A report shows a problem with a source if its excerpt shows the text that the
    problem is about on the line that the problem has the number of. -/
def ShownIn (problem : Problem) (source : Text) (filename : String) (before text : Text) : Prop :=
  ∃ excerpt, (Report.ofProblem source filename problem).excerpt = some excerpt ∧
    excerpt.Shows problem.line before text

/-- Whatever is reported of a source, read as a catalog or as assignments, has a
    text of the source at its span. The report shows this text if the source up to
    its end is counted alike in bytes and characters and in line feeds and display
    lines, and not otherwise. Only a problem that is about no character at all may
    still be shown. -/
theorem shownIn_iff_countedAlike {source : Text} {problem : Problem}
    (hreported : problem ∈ reported (Catalog.parse source) ∨
      ∃ catalog : Catalog, problem ∈ reported (catalog.resolve source)) (filename : String) :
    (∃ before text after, problem.Cuts source before text after) ∧
      ∀ before text after, problem.Cuts source before text after →
        (CountedAlike before text → problem.ShownIn source filename before text) ∧
        (text ≠ [] → problem.ShownIn source filename before text → CountedAlike before text) := by
  have hpoints : problem.PointsInto source := by
    rcases hreported with hmem | ⟨catalog, hmem⟩
    · exact (Catalog.located_reported_parse source).points problem hmem
    · exact (Catalog.located_reported_resolve catalog source).points problem hmem
  obtain ⟨before, text, after, hcuts, hon⟩ := hpoints.exists_cuts
  refine ⟨⟨before, text, after, hcuts⟩, fun before' text' after' hcuts' => ?_⟩
  obtain ⟨rfl, rfl⟩ := hcuts.unique hcuts'
  refine ⟨hcuts.exists_shows hon, ?_⟩
  rintro hne ⟨excerpt, hexcerpt, hshows⟩
  exact hcuts.countedAlike hon hne hexcerpt hshows

/-- Behind a comment and a carriage return, all in ASCII, a reference is shown. -/
theorem shownIn_iff_countedAlike_ascii :
    ShownIn ⟨.unknownCheck (.host ['h']) ['b'], 2, ⟨7, 9⟩⟩ "# x\r\nh $b\n".toList "hosts.cfg"
      "# x\r\nh ".toList "$b".toList := by
  have hiff := @shownIn_iff_countedAlike "# x\r\nh $b\n".toList
    ⟨.unknownCheck (.host ['h']) ['b'], 2, ⟨7, 9⟩⟩
    (.inr ⟨⟨[⟨['a'], [], 1⟩], by decide⟩, by decide⟩) "hosts.cfg"
  have hbyte := Text.byteLength_eq_length_iff.mp
    (rfl : Text.byteLength ("# x\r\nh ".toList ++ "$b".toList) = 9)
  exact (hiff.2 "# x\r\nh ".toList "$b".toList ['\n'] ⟨rfl, rfl, rfl⟩).1 ⟨hbyte, by decide⟩

/-- Behind a letter of two bytes a report marks one character further on. -/
theorem not_shownIn_accented :
    ¬ ∀ (catalog : Catalog) (source : Text) (filename : String),
      ∀ problem ∈ reported (catalog.resolve source), ∀ before text after,
        problem.Cuts source before text after →
          problem.ShownIn source filename before text := by
  intro hshown
  obtain ⟨excerpt, hexcerpt, hshows⟩ := hshown ⟨[⟨['a'], [], 1⟩], by decide⟩ "é $b\n".toList
    "hosts.cfg" ⟨.unknownCheck (.host ['é']) ['b'], 1, ⟨3, 5⟩⟩ (by decide) "é ".toList "$b".toList
    ['\n'] ⟨rfl, rfl, rfl⟩
  have hstart : excerpt.start = 3 := by
    cases hexcerpt
    rfl
  cases hstart.symm.trans hshows.start

end Problem

end CheckPlan
