import CheckPlan.Text.Blank
import CheckPlan.Text.Span

namespace CheckPlan

/-- A part of a source and the byte of the source at which it starts. -/
structure Piece where
  start : Nat
  text : Text
  deriving DecidableEq, Repr

namespace Piece

/-- The bytes of the source that the piece covers. -/
def span (piece : Piece) : Span :=
  ⟨piece.start, piece.start + Text.byteLength piece.text⟩

/-- The piece after the first `count` characters. -/
def drop (piece : Piece) (count : Nat) : Piece :=
  ⟨piece.start + Text.byteLength (piece.text.take count), piece.text.drop count⟩

/-- The piece without the blanks at both ends. Of a piece that is all blank
    the empty piece at its start is left. -/
def trim (piece : Piece) : Piece :=
  if Text.trimStart piece.text = [] then
    ⟨piece.start, []⟩
  else
    ⟨piece.start + Text.byteLength (piece.text.takeWhile isBlank), Text.trim piece.text⟩

@[simp] theorem text_trim (piece : Piece) : piece.trim.text = Text.trim piece.text := by
  unfold trim Text.trim
  split
  · next hblank => rw [hblank]; rfl
  · rfl

/-- The parts before and after the first `mark`, if there is one. -/
def cut? (mark : Char) (piece : Piece) : Option (Piece × Piece) :=
  let before := piece.text.takeWhile (· ≠ mark)
  match piece.text.dropWhile (· ≠ mark) with
  | [] => none
  | _ :: after =>
    some (⟨piece.start, before⟩,
      ⟨piece.start + Text.byteLength before + mark.utf8Size, after⟩)

/-- The pieces of a text that starts at byte `start`, cut at every `mark`. -/
def splitFrom (mark : Char) (start : Nat) : Text → List Piece
  | [] => [⟨start, []⟩]
  | c :: rest =>
    if c = mark then
      ⟨start, []⟩ :: splitFrom mark (start + c.utf8Size) rest
    else
      match splitFrom mark (start + c.utf8Size) rest with
      | [] => [⟨start, [c]⟩]
      | piece :: more => ⟨start, c :: piece.text⟩ :: more

/-- The first piece reaches up to the first mark. -/
theorem exists_splitFrom_eq_cons (mark : Char) (start : Nat) (text : Text) :
    ∃ more, splitFrom mark start text = ⟨start, text.takeWhile (· ≠ mark)⟩ :: more := by
  cases text with
  | nil => exact ⟨[], rfl⟩
  | cons c rest =>
    by_cases hmark : c = mark
    · refine ⟨splitFrom mark (start + c.utf8Size) rest, ?_⟩
      simp [splitFrom, hmark]
    · obtain ⟨more, hmore⟩ := exists_splitFrom_eq_cons mark (start + c.utf8Size) rest
      refine ⟨more, ?_⟩
      simp [splitFrom, hmark, hmore]

/-- The pieces between the `mark`s of a piece. There is always at least one,
    and two marks in a row leave an empty one between them. -/
def split (mark : Char) (piece : Piece) : List Piece :=
  splitFrom mark piece.start piece.text

/-- A piece is cut out of another one: there are characters of the other one in
    front of it and behind it, and it starts behind those in front. -/
def Within (inner outer : Piece) : Prop :=
  ∃ front back, outer.text = front ++ inner.text ++ back ∧
    inner.start = outer.start + Text.byteLength front

namespace Within

theorem refl (piece : Piece) : piece.Within piece :=
  ⟨[], [], by simp, by simp⟩

theorem trans {inner middle outer : Piece} (hinner : inner.Within middle)
    (houter : middle.Within outer) : inner.Within outer := by
  obtain ⟨front, back, htext, hstart⟩ := hinner
  obtain ⟨before, after, hwhole, hmiddle⟩ := houter
  refine ⟨before ++ front, back ++ after, ?_, ?_⟩
  · simp only [hwhole, htext, List.append_assoc]
  · rw [hstart, hmiddle, Text.byteLength_append, Nat.add_assoc]

theorem start_le {inner outer : Piece} (hwithin : inner.Within outer) :
    outer.span.start ≤ inner.span.start := by
  obtain ⟨front, back, -, hstart⟩ := hwithin
  simp only [span, hstart]
  omega

theorem stop_le {inner outer : Piece} (hwithin : inner.Within outer) :
    inner.span.stop ≤ outer.span.stop := by
  obtain ⟨front, back, htext, hstart⟩ := hwithin
  simp only [span, hstart, htext, Text.byteLength_append]
  omega

theorem drop (piece : Piece) (count : Nat) : (piece.drop count).Within piece :=
  ⟨piece.text.take count, [], by simp [Piece.drop], rfl⟩

theorem trim (piece : Piece) : piece.trim.Within piece := by
  unfold Piece.trim
  split
  · exact ⟨[], piece.text, rfl, rfl⟩
  · obtain ⟨back, -, hback⟩ := Text.exists_trimEnd_append (Text.trimStart piece.text)
    refine ⟨piece.text.takeWhile isBlank, back, ?_, rfl⟩
    rw [List.append_assoc, Text.trim, ← hback, Text.trimStart, List.takeWhile_append_dropWhile]

end Within

/-- What follows the characters in front of the first mark starts with the mark. -/
theorem eq_of_dropWhile_eq_cons {mark c : Char} {text after : Text}
    (hafter : text.dropWhile (· ≠ mark) = c :: after) : c = mark := by
  have hhead := List.head?_dropWhile_not (p := (· ≠ mark)) (l := text)
  rw [hafter] at hhead
  simpa using hhead

/-- There is nothing to cut at exactly when the mark does not occur. -/
theorem cut?_eq_none_iff {mark : Char} {piece : Piece} :
    piece.cut? mark = none ↔ mark ∉ piece.text := by
  have hwhole := List.takeWhile_append_dropWhile (p := (· ≠ mark)) (l := piece.text)
  unfold cut?
  split
  · next hnone =>
    simp only [true_iff]
    intro hmem
    rw [hnone, List.append_nil] at hwhole
    rw [← hwhole] at hmem
    simpa using List.all_eq_true.mp List.all_takeWhile mark hmem
  · next c after hafter =>
    simp only [reduceCtorEq, false_iff, Classical.not_not]
    rw [← hwhole, hafter, eq_of_dropWhile_eq_cons hafter]
    simp

/-- A cut is at the first mark. The mark belongs to neither part. -/
theorem cut?_eq_some {mark : Char} {piece first second : Piece}
    (hcut : piece.cut? mark = some (first, second)) :
    piece.text = first.text ++ mark :: second.text ∧ mark ∉ first.text ∧
      first.start = piece.start ∧
      second.start = piece.start + Text.byteLength (first.text ++ [mark]) := by
  have hwhole := List.takeWhile_append_dropWhile (p := (· ≠ mark)) (l := piece.text)
  unfold cut? at hcut
  split at hcut
  · cases hcut
  · next c after hafter =>
    simp only [Option.some.injEq, Prod.mk.injEq] at hcut
    obtain ⟨rfl, rfl⟩ := hcut
    rw [hafter, eq_of_dropWhile_eq_cons hafter] at hwhole
    refine ⟨hwhole.symm, ?_, rfl, by simp [Nat.add_assoc]⟩
    intro hmem
    simpa using List.all_eq_true.mp List.all_takeWhile mark hmem

namespace Within

/-- Both parts of a cut are within what is cut. -/
theorem cut? {mark : Char} {piece first second : Piece}
    (hcut : piece.cut? mark = some (first, second)) :
    first.Within piece ∧ second.Within piece := by
  obtain ⟨htext, -, hfirst, hsecond⟩ := cut?_eq_some hcut
  refine ⟨⟨[], mark :: second.text, by simp [htext], by simp [hfirst]⟩, ?_⟩
  exact ⟨first.text ++ [mark], [], by simp [htext], hsecond⟩

theorem of_mem_splitFrom {mark : Char} {piece : Piece} :
    ∀ {start : Nat} {text : Text}, piece ∈ splitFrom mark start text →
      piece.Within ⟨start, text⟩
  | start, [], hmem => by
    rw [splitFrom, List.mem_singleton] at hmem
    exact hmem ▸ refl _
  | start, c :: rest, hmem => by
    have hrest : Within ⟨start + c.utf8Size, rest⟩ ⟨start, c :: rest⟩ :=
      ⟨[c], [], by simp, by simp⟩
    by_cases hmark : c = mark
    · rw [splitFrom, if_pos hmark, List.mem_cons] at hmem
      rcases hmem with rfl | hmem
      · exact ⟨[], c :: rest, rfl, rfl⟩
      · exact (of_mem_splitFrom hmem).trans hrest
    · obtain ⟨more, hmore⟩ := exists_splitFrom_eq_cons mark (start + c.utf8Size) rest
      rw [splitFrom, if_neg hmark, hmore, List.mem_cons] at hmem
      rcases hmem with rfl | hmem
      · refine ⟨[], rest.dropWhile (· ≠ mark), ?_, rfl⟩
        rw [List.nil_append, List.cons_append, List.takeWhile_append_dropWhile]
      · have hlater : piece ∈ splitFrom mark (start + c.utf8Size) rest := by
          rw [hmore]
          exact List.mem_cons_of_mem _ hmem
        exact (of_mem_splitFrom hlater).trans hrest

/-- Every piece between marks is within the whole piece. -/
theorem of_mem_split {mark : Char} {whole piece : Piece} (hmem : piece ∈ whole.split mark) :
    piece.Within whole :=
  of_mem_splitFrom hmem

end Within

/-- The pieces between marks come in order, with at least the mark between two
    of them. -/
theorem pairwise_splitFrom (mark : Char) (start : Nat) (text : Text) :
    (splitFrom mark start text).Pairwise fun left right => left.span.stop < right.span.start := by
  induction text generalizing start with
  | nil => simp [splitFrom]
  | cons c rest ih =>
    have hsize := c.utf8Size_pos
    by_cases hmark : c = mark
    · rw [splitFrom, if_pos hmark, List.pairwise_cons]
      refine ⟨?_, ih _⟩
      intro piece hmem
      have hle := (Within.of_mem_splitFrom hmem).start_le
      simp only [span, Text.byteLength_nil] at hle ⊢
      omega
    · obtain ⟨more, hmore⟩ := exists_splitFrom_eq_cons mark (start + c.utf8Size) rest
      have hrest := ih (start + c.utf8Size)
      rw [hmore, List.pairwise_cons] at hrest
      rw [splitFrom, if_neg hmark, hmore, List.pairwise_cons]
      refine ⟨?_, hrest.2⟩
      intro piece hmem
      have hlt := hrest.1 piece hmem
      simp only [span, Text.byteLength_cons] at hlt ⊢
      omega

/-- A piece stands in a source where the source reads the piece's text at the
    piece's start. -/
def StandsIn (piece : Piece) (source : Text) : Prop :=
  ∃ before after, source = before ++ piece.text ++ after ∧ Text.byteLength before = piece.start

namespace StandsIn

/-- The text at the span of a piece that stands in a source is the piece. -/
theorem slice?_span {piece : Piece} {source : Text} (hstands : piece.StandsIn source) :
    source.slice? piece.span = some piece.text := by
  obtain ⟨before, after, hsource, hstart⟩ := hstands
  simp only [Text.slice?, span, ← hstart, hsource, List.append_assoc, Text.dropBytes?_append,
    Option.bind_some, Nat.add_sub_cancel_left, Text.takeBytes?_append]

/-- What is within a piece that stands in a source stands there as well. -/
theorem of_within {inner outer : Piece} {source : Text} (hstands : outer.StandsIn source)
    (hwithin : inner.Within outer) : inner.StandsIn source := by
  obtain ⟨before, after, hsource, hstart⟩ := hstands
  obtain ⟨front, back, htext, hinner⟩ := hwithin
  refine ⟨before ++ front, back ++ after, ?_, ?_⟩
  · simp only [hsource, htext, List.append_assoc]
  · rw [Text.byteLength_append, hstart, hinner]

end StandsIn

end Piece

end CheckPlan
