import CheckPlan.Text.Piece

namespace CheckPlan

/-- The text cut after every line feed. No part is empty. -/
def Text.rawLines : Text → List Text
  | [] => []
  | c :: rest =>
    if c = '\n' then
      [c] :: rawLines rest
    else
      match rawLines rest with
      | [] => [[c]]
      | line :: more => (c :: line) :: more

/-- The parts make up the whole text again. -/
theorem Text.flatten_rawLines (text : Text) : text.rawLines.flatten = text := by
  induction text with
  | nil => rfl
  | cons c rest ih =>
    rw [rawLines]
    split
    · rw [List.flatten_cons, ih, List.singleton_append]
    · split
      · next hnone =>
        rw [hnone] at ih
        simp [← ih]
      · next line more hmore =>
        rw [hmore] at ih
        simp [← ih]

/-- A line of a source: its number from one, the byte at which it starts, and
    its characters with the line feed that ends it, if there is one. -/
structure Line where
  number : Nat
  offset : Nat
  raw : Text
  deriving DecidableEq, Repr

namespace Line

/-- The characters of the line without the line feed, or carriage return and
    line feed, that end it. A carriage return that ends a source stays. -/
def text (line : Line) : Text :=
  match line.raw.reverse with
  | '\n' :: '\r' :: rest => rest.reverse
  | '\n' :: rest => rest.reverse
  | _ => line.raw

/-- A line is its text and what ends it: a line feed, a carriage return and a
    line feed, or nothing where the source ends. -/
theorem exists_raw_eq_text_append (line : Line) :
    ∃ ending, line.raw = line.text ++ ending ∧
      (ending = ['\n'] ∨ ending = ['\r', '\n'] ∨
        ending = [] ∧ line.raw.getLast? ≠ some '\n') := by
  unfold text
  split
  · next rest hraw =>
    refine ⟨['\r', '\n'], ?_, .inr (.inl rfl)⟩
    rw [← List.reverse_reverse line.raw, hraw]
    simp
  · next rest _ hraw =>
    refine ⟨['\n'], ?_, .inl rfl⟩
    rw [← List.reverse_reverse line.raw, hraw]
    simp
  · next _ hnone =>
    refine ⟨[], (List.append_nil _).symm, .inr (.inr ⟨rfl, ?_⟩)⟩
    intro hlast
    rw [← List.head?_reverse, List.head?_eq_some_iff] at hlast
    obtain ⟨rest, hraw⟩ := hlast
    exact hnone rest hraw

/-- The text of the line, where it stands in the source. -/
def content (line : Line) : Piece :=
  ⟨line.offset, line.text⟩

/-- The bytes of the line's text. -/
def span (line : Line) : Span :=
  line.content.span

/-- The part of the line between two bytes counted from its start, if both
    are character boundaries of the line. -/
def piece? (line : Line) (range : Span) : Option Piece :=
  (line.raw.slice? range).map fun part => ⟨line.offset + range.start, part⟩

/-- Lines with consecutive numbers, each starting where the one before it
    ends. -/
def numberFrom (number offset : Nat) : List Text → List Line
  | [] => []
  | raw :: rest =>
    ⟨number, offset, raw⟩ :: numberFrom (number + 1) (offset + Text.byteLength raw) rest

/-- A numbered line has the characters of its part, and starts where the parts
    in front of it end. -/
private theorem exists_of_mem_numberFrom {line : Line} :
    ∀ {number : Nat} (before : Text) {parts : List Text},
      line ∈ numberFrom number (Text.byteLength before) parts →
        ∃ front back, parts.flatten = front ++ line.raw ++ back ∧
          line.offset = Text.byteLength (before ++ front)
  | _, _, [], hmem => by cases hmem
  | number, before, raw :: rest, hmem => by
    rw [numberFrom, ← Text.byteLength_append, List.mem_cons] at hmem
    rcases hmem with rfl | hmem
    · exact ⟨[], rest.flatten, by simp, by simp⟩
    · obtain ⟨front, back, hparts, hoffset⟩ := exists_of_mem_numberFrom (before ++ raw) hmem
      refine ⟨raw ++ front, back, ?_, ?_⟩
      · rw [List.flatten_cons, hparts]
        simp only [List.append_assoc]
      · rw [hoffset, List.append_assoc]

end Line

/-- The lines of a source, in order. -/
def Text.lines (source : Text) : List Line :=
  Line.numberFrom 1 0 source.rawLines

/-- A line of a source stands in the source, with what ends it. -/
theorem Line.raw_standsIn {line : Line} {source : Text} (hmem : line ∈ source.lines) :
    Piece.StandsIn ⟨line.offset, line.raw⟩ source := by
  obtain ⟨front, back, hparts, hoffset⟩ := Line.exists_of_mem_numberFrom [] hmem
  rw [Text.flatten_rawLines] at hparts
  exact ⟨front, back, hparts, hoffset.symm⟩

/-- The text of a line of a source stands in the source. -/
theorem Line.content_standsIn {line : Line} {source : Text} (hmem : line ∈ source.lines) :
    line.content.StandsIn source := by
  obtain ⟨ending, hraw, -⟩ := line.exists_raw_eq_text_append
  exact (Line.raw_standsIn hmem).of_within ⟨[], ending, hraw, rfl⟩

end CheckPlan
