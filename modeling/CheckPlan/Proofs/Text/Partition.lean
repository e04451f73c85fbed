import CheckPlan.Proofs.Text.Bytes
import CheckPlan.Proofs.Text.Lines

namespace CheckPlan

namespace Line

/-- The line behind `count` other lines of `size` bytes. -/
def moved (count size : Nat) (line : Line) : Line :=
  { line with number := line.number + count, offset := line.offset + size }

/-- The bytes that a part of the line covers, told from the addresses of the line
    and of the part. A part in front of the line counts as if it started where the
    line does, and a part behind the line as if it started where the line ends. -/
def spanAt (line : Line) (base address : Nat) (part : Text) : Span :=
  let start := line.offset + min (address - base) (Text.byteLength line.raw)
  ⟨start, start + Text.byteLength part⟩

/-- Numbers and offsets count on from where they start. -/
private theorem numberFrom_add (count size number offset : Nat) (parts : List Text) :
    numberFrom (number + count) (offset + size) parts =
      (numberFrom number offset parts).map (moved count size) := by
  induction parts generalizing number offset with
  | nil => rfl
  | cons part rest ih =>
    rw [numberFrom, numberFrom, List.map_cons, ← ih, Nat.add_right_comm number,
      Nat.add_right_comm offset]
    rfl

section Source

variable {source : Text} {line : Line}

private theorem place_of_getElem?_lines {index : Nat} (hget : source.lines[index]? = some line) :
    line.number = index + 1 ∧
      line.offset = Text.byteLength ((source.lines.take index).flatMap raw) := by
  have hoffset := offset_of_getElem?_numberFrom hget
  rw [← map_raw_lines, ← List.map_take, ← List.flatMap_def, Nat.zero_add] at hoffset
  exact ⟨(number_of_getElem?_numberFrom hget).trans (Nat.add_comm 1 index), hoffset⟩

private theorem isLine_of_mem_lines (hmem : line ∈ source.lines) : Text.IsLine line.raw := by
  apply Text.isLine_of_mem_rawLines
  rw [← map_raw_lines]
  exact List.mem_map_of_mem hmem

/-- Only the last line of a source can be without a line feed. -/
private theorem getLast?_raw_of_mem_dropLast (hmem : line ∈ source.lines.dropLast) :
    line.raw.getLast? = some '\n' := by
  have hends := Text.pairwise_rawLines source
  rw [← map_raw_lines, List.pairwise_map] at hends
  rcases List.eq_nil_or_concat source.lines with hnil | ⟨front, last, hconcat⟩
  · rw [hnil] at hmem
    cases hmem
  · rw [hconcat, List.concat_eq_append, List.pairwise_append] at hends
    rw [hconcat, List.concat_eq_append, List.dropLast_concat] at hmem
    exact hends.2.2 line hmem last (List.mem_singleton_self last)

/-- The text of a line is the line without one line feed, or one carriage return
    and line feed, at its end. -/
private theorem raw_cases (line : Line) :
    line.raw = line.text ++ ['\r', '\n'] ∨
      (line.raw = line.text ++ ['\n'] ∧ line.text.getLast? ≠ some '\r') ∨
      (line.raw = line.text ∧ line.raw.getLast? ≠ some '\n') := by
  obtain ⟨ending, hraw, rfl | rfl | ⟨rfl, hlast⟩⟩ := line.exists_raw_eq_text_append
  · exact .inr (.inl ⟨hraw, getLast?_text_ne hraw⟩)
  · exact .inl hraw
  · rw [List.append_nil] at hraw
    exact .inr (.inr ⟨hraw, hlast⟩)

/-- A part that is cut out of a line stands in the source, at the bytes of the
    line that it is cut out of. -/
private theorem exists_piece? (hmem : line ∈ source.lines) {range : Span} {part : Text}
    (hrange : range.start ≤ range.stop) (hpart : line.raw.slice? range = some part) :
    ∃ piece, line.piece? range = some piece ∧ piece.text = part ∧
      piece.span = ⟨line.offset + range.start, line.offset + range.stop⟩ ∧
      (∀ base, line.spanAt base (base + range.start) part = piece.span) ∧
      source.slice? piece.span = some part := by
  obtain ⟨front, back, hraw, hfront, hlength⟩ := Text.slice?_eq_some_iff.mp hpart
  refine ⟨⟨line.offset + range.start, part⟩, by rw [piece?, hpart, Option.map_some], rfl, ?_, ?_, ?_⟩
  · rw [Piece.span, hlength, Nat.add_assoc, Nat.add_sub_cancel' hrange]
  · intro base
    have hstart : range.start ≤ Text.byteLength line.raw := by
      simp only [hraw, Text.byteLength_append]
      omega
    rw [spanAt, Nat.add_sub_cancel_left, Nat.min_eq_left hstart, Piece.span]
  · have hwithin : Piece.Within ⟨line.offset + range.start, part⟩ ⟨line.offset, line.raw⟩ :=
      ⟨front, back, hraw, by rw [hfront]⟩
    exact ((raw_standsIn hmem).of_within hwithin).slice?_span

end Source

end Line

namespace Text

/-- Lines behind a text that ends with a line are moved by the lines and the bytes
    of that text. -/
private theorem lines_append_eq_moved {front : Text} (hend : front.EndsLine) (back : Text) :
    lines (front ++ back) =
      front.lines ++ back.lines.map (Line.moved front.lines.length (byteLength front)) := by
  have hcount : front.lines.length = front.rawLines.length := by
    rw [← Line.map_raw_lines, List.length_map]
  rw [lines_append hend, hcount, lines, lines, ← Line.numberFrom_add, Nat.zero_add]

/-- The lines of a source partition it. Together they are the source, each at its
    place, and they are cut behind the line feeds and nowhere else. What a line says
    about where its text is, or a part of it, holds of the source. -/
structure PartitionedByLines (source : Text) : Prop where
  whole : source.lines.flatMap Line.raw = source
  places : ∀ index line, source.lines[index]? = some line →
    line.number = index + 1 ∧
      line.offset = byteLength ((source.lines.take index).flatMap Line.raw)
  isLine : ∀ line ∈ source.lines, IsLine line.raw
  ended : ∀ line ∈ source.lines.dropLast, line.raw.getLast? = some '\n'
  texts : ∀ line ∈ source.lines,
    line.raw = line.text ++ ['\r', '\n'] ∨
      (line.raw = line.text ++ ['\n'] ∧ line.text.getLast? ≠ some '\r') ∨
      (line.raw = line.text ∧ line.raw.getLast? ≠ some '\n')
  text_at_span : ∀ line ∈ source.lines, source.slice? line.span = some line.text
  part_at_span : ∀ line ∈ source.lines, ∀ range part, range.start ≤ range.stop →
    line.raw.slice? range = some part →
    ∃ piece, line.piece? range = some piece ∧ piece.text = part ∧
      piece.span = ⟨line.offset + range.start, line.offset + range.stop⟩ ∧
      (∀ base, line.spanAt base (base + range.start) part = piece.span) ∧
      source.slice? piece.span = some part
  followed : source.EndsLine → ∀ back, lines (source ++ back) =
    source.lines ++ back.lines.map (Line.moved source.lines.length (byteLength source))

/-- Every source is partitioned by its lines: an empty one, one whose last line
    has no line feed, and one with carriage returns or characters of several bytes. -/
theorem partitionedByLines (source : Text) : PartitionedByLines source where
  whole := by rw [List.flatMap_def, Line.map_raw_lines, flatten_rawLines]
  places _ _ hget := Line.place_of_getElem?_lines hget
  isLine _ hmem := Line.isLine_of_mem_lines hmem
  ended _ hmem := Line.getLast?_raw_of_mem_dropLast hmem
  texts line _ := line.raw_cases
  text_at_span _ hmem := (Line.content_standsIn hmem).slice?_span
  part_at_span _ hmem _ _ hrange hpart := Line.exists_piece? hmem hrange hpart
  followed hend back := lines_append_eq_moved hend back

example : (lines "é\r\n\nb\r".toList).map (fun line => (line.number, line.offset, line.span)) =
    [(1, 0, ⟨0, 2⟩), (2, 4, ⟨4, 4⟩), (3, 5, ⟨5, 7⟩)] := by decide

end Text

end CheckPlan
