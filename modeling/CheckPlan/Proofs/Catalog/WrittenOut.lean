import CheckPlan.Proofs.Catalog.Grouped
import CheckPlan.Proofs.Catalog.Registered
import CheckPlan.Proofs.Earlier

namespace CheckPlan

namespace Catalog

/-- A name and a body that can be written as a block. -/
structure Entry where
  name : Text
  body : Text
  deriving DecidableEq, Repr

namespace Entry

/-- The entry as a part of a source: a header with the name, and the body. -/
def text (entry : Entry) : Text :=
  '$' :: entry.name ++ '\n' :: entry.body

/-- The template of the entry when its header is on a line. -/
def template (entry : Entry) (line : Nat) : Template :=
  ⟨entry.name, entry.body, line⟩

/-- The lines of the entry. -/
def rawLines (entry : Entry) : List Text :=
  ('$' :: entry.name ++ ['\n']) :: entry.body.rawLines

/-- The block of the entry when its header is on a line that starts at a
    byte. -/
def block (entry : Entry) (number offset : Nat) : Block :=
  ⟨⟨number, offset, '$' :: entry.name ++ ['\n']⟩,
    Line.numberFrom (number + 1) (offset + Text.byteLength ('$' :: entry.name ++ ['\n']))
      entry.body.rawLines⟩

/-- The name fits on a header, where blanks at the end would be lost, and no
    line of the body is taken for a header. -/
structure Writable (entry : Entry) : Prop where
  named : entry.name ≠ []
  no_feed : '\n' ∉ entry.name
  trimmed : ∀ c, entry.name.getLast? = some c → isBlank c = false
  no_header : ∀ raw ∈ entry.body.rawLines, raw.opensBlock = false

variable {entry : Entry}

theorem text_eq (entry : Entry) :
    entry.text = ('$' :: entry.name ++ ['\n']) ++ entry.body := by
  rw [text, List.append_assoc, List.singleton_append]

private theorem rawLines_text (hwritable : entry.Writable) :
    entry.text.rawLines = entry.rawLines := by
  have hline : Text.IsLine ('$' :: entry.name ++ ['\n']) := by
    apply Text.isLine_concat
    rw [List.mem_cons, not_or]
    exact ⟨by decide, hwritable.no_feed⟩
  rw [text_eq, Text.rawLines_append (Text.endsLine_concat _), Text.rawLines_of_isLine hline]
  rfl

private theorem endsLine_text (hbody : entry.body.EndsLine) : entry.text.EndsLine := by
  rw [text_eq]
  exact (Text.endsLine_concat _).append hbody

private theorem count_text (hwritable : entry.Writable) :
    entry.text.count '\n' = 1 + entry.body.count '\n' := by
  rw [text, List.cons_append, List.count_cons_of_ne (by decide), List.count_append,
    List.count_eq_zero_of_not_mem hwritable.no_feed, List.count_cons_self]
  omega

private theorem template_block (hwritable : entry.Writable) (number offset : Nat) :
    (entry.block number offset).template = entry.template number := by
  have hname : (entry.block number offset).name = entry.name := by
    have hfeed : Text.Blank ['\n'] := fun c hmem => List.mem_singleton.mp hmem ▸ rfl
    rw [Block.name, block, List.cons_append, List.tail_cons, Text.trimEnd_append_blank hfeed,
      Text.trimEnd_eq_self hwritable.trimmed]
  have hbody : (entry.block number offset).body.flatMap Line.raw = entry.body := by
    rw [block, List.flatMap_def, Line.map_raw_numberFrom, Text.flatten_rawLines]
  rw [Block.template, hname, hbody]
  rfl

end Entry

/-- Entries that can be written below a preamble, one after the other. -/
structure Writable (preamble : Text) (entries : List Entry) : Prop where
  preamble_ends : preamble.EndsLine
  preamble_free : ∀ raw ∈ preamble.rawLines, raw.opensBlock = false
  writable : ∀ entry ∈ entries, entry.Writable
  distinct : (entries.map Entry.name).Nodup
  bodies_end : entries.Pairwise fun entry _ => entry.body.EndsLine

/-- The templates of entries that are written below a preamble. Each is on the
    line behind the line feeds above it. -/
def written (preamble : Text) (entries : List Entry) : List Template :=
  (withEarlier [] entries).map fun (earlier, entry) =>
    entry.template (1 + (preamble ++ earlier.flatMap Entry.text).count '\n')

private theorem rawLines_flatMap_text {entries : List Entry}
    (hwritable : ∀ entry ∈ entries, entry.Writable)
    (hends : entries.Pairwise fun entry _ => entry.body.EndsLine) :
    Text.rawLines (entries.flatMap Entry.text) = entries.flatMap Entry.rawLines := by
  induction entries with
  | nil => rfl
  | cons entry rest ih =>
    rw [List.pairwise_cons] at hends
    obtain ⟨hentry, hrest⟩ := List.forall_mem_cons.mp hwritable
    rw [List.flatMap_cons, List.flatMap_cons]
    by_cases hlast : rest = []
    · rw [hlast, List.flatMap_nil, List.append_nil, Entry.rawLines_text hentry, List.flatMap_nil,
        List.append_nil]
    · obtain ⟨next, more, rfl⟩ := List.exists_cons_of_ne_nil hlast
      have hend := Entry.endsLine_text (hends.1 next List.mem_cons_self)
      rw [Text.rawLines_append hend, Entry.rawLines_text hentry, ih hrest hends.2]

theorem isHeader_of_mem_numberFrom {parts : List Text}
    (hfree : ∀ raw ∈ parts, raw.opensBlock = false) {number offset : Nat} :
    ∀ line ∈ Line.numberFrom number offset parts, line.isHeader = false := by
  intro line hmem
  have hraw := List.mem_map_of_mem (f := Line.raw) hmem
  rw [Line.map_raw_numberFrom] at hraw
  exact hfree line.raw hraw

/-- The lines of entries are grouped into their blocks. -/
private theorem exists_group_numberFrom (preamble : Text) {entries : List Entry}
    (hwritable : ∀ entry ∈ entries, entry.Writable)
    (hends : entries.Pairwise fun entry _ => entry.body.EndsLine) {earlier : List Entry}
    {number : Nat} (offset : Nat)
    (hnumber : entries ≠ [] →
      number = 1 + (preamble ++ earlier.flatMap Entry.text).count '\n') :
    ∃ blocks, Block.group (Line.numberFrom number offset (entries.flatMap Entry.rawLines)) =
        ([], blocks) ∧
      blocks.map Block.template = (withEarlier earlier entries).map fun (earlier, entry) =>
        entry.template (1 + (preamble ++ earlier.flatMap Entry.text).count '\n') := by
  induction entries generalizing earlier number offset with
  | nil => exact ⟨[], rfl, rfl⟩
  | cons entry rest ih =>
    rw [List.pairwise_cons] at hends
    obtain ⟨hentry, hrest⟩ := List.forall_mem_cons.mp hwritable
    have hline := hnumber (List.cons_ne_nil _ _)
    -- Only a body with something behind it has to end with a line.
    have hnext : rest ≠ [] → number + 1 + entry.body.rawLines.length =
        1 + (preamble ++ (earlier ++ [entry]).flatMap Entry.text).count '\n' := by
      intro hne
      obtain ⟨next, more, rfl⟩ := List.exists_cons_of_ne_nil hne
      rw [Text.length_rawLines (hends.1 next List.mem_cons_self), List.flatMap_append,
        List.flatMap_singleton, ← List.append_assoc, List.count_append, Entry.count_text hentry]
      omega
    obtain ⟨blocks, hgroup, htemplates⟩ := ih hrest hends.2
      (offset + Text.byteLength ('$' :: entry.name ++ ['\n']) +
        Text.byteLength entry.body.rawLines.flatten) hnext
    refine ⟨entry.block number offset :: blocks, ?_, ?_⟩
    · rw [List.flatMap_cons, Entry.rawLines, List.cons_append, Line.numberFrom,
        Line.numberFrom_append, Block.group_cons_of_header rfl,
        Block.group_append (isHeader_of_mem_numberFrom hentry.no_header), hgroup, List.append_nil]
      rfl
    · rw [List.map_cons, htemplates, withEarlier, List.map_cons, Entry.template_block hentry,
        hline]

/-- What is written is read back. -/
theorem exists_parse_written {preamble : Text} {entries : List Entry}
    (hwritable : Writable preamble entries) :
    ∃ catalog, parse (preamble ++ entries.flatMap Entry.text) = .ok catalog ∧
      catalog.templates = written preamble entries := by
  have hlines : Text.rawLines (preamble ++ entries.flatMap Entry.text) =
      preamble.rawLines ++ entries.flatMap Entry.rawLines := by
    rw [Text.rawLines_append hwritable.preamble_ends,
      rawLines_flatMap_text hwritable.writable hwritable.bodies_end]
  have hnumber : entries ≠ [] → 1 + preamble.rawLines.length =
      1 + (preamble ++ ([] : List Entry).flatMap Entry.text).count '\n' := by
    intro _
    rw [Text.length_rawLines hwritable.preamble_ends, List.flatMap_nil, List.append_nil]
  obtain ⟨found, hgroup, htemplates⟩ := exists_group_numberFrom preamble hwritable.writable
    hwritable.bodies_end (0 + Text.byteLength preamble.rawLines.flatten) hnumber
  have hblocks : blocks (preamble ++ entries.flatMap Entry.text) = found := by
    rw [blocks, Text.lines, hlines, Line.numberFrom_append,
      Block.group_append (isHeader_of_mem_numberFrom hwritable.preamble_free), hgroup]
  have hnames : found.map Block.name = entries.map Entry.name := by
    have hmap := congrArg (List.map Template.name) htemplates
    rw [List.map_map, List.map_map] at hmap
    calc found.map Block.name
        = (withEarlier [] entries).map (Entry.name ∘ Prod.snd) := hmap
      _ = entries.map Entry.name := by rw [← List.map_map, map_snd_withEarlier]
  have hdistinct : (found.map Block.name).Nodup := hnames ▸ hwritable.distinct
  have hnamed : ∀ block ∈ found, block.name ≠ [] := by
    intro block hmem
    have hname := List.mem_map_of_mem (f := Block.name) hmem
    rw [hnames] at hname
    obtain ⟨entry, hentry, heq⟩ := List.mem_map.mp hname
    exact heq ▸ (hwritable.writable entry hentry).named
  refine ⟨⟨found.map Block.template, by rwa [List.map_map]⟩, ?_, htemplates⟩
  rw [parse_eq_ok_iff, hblocks]
  exact ⟨⟨hnamed, hdistinct⟩, rfl⟩

/-- A source and its catalog settle each other. A source that is accepted is
    its preamble, and then for each template, in the order of their lines, the
    line of its header and its body. Names and bodies that can be written below
    a preamble are read back as they are, each at its line. -/
theorem sources_settle_catalogs :
    (∀ source catalog, parse source = .ok catalog →
      source.preamble ++ catalog.templates.flatMap (fun template =>
        source.rawLine template.line ++ template.body) = source ∧
      catalog.templates.Pairwise (fun left right => left.line < right.line) ∧
      ∀ template ∈ catalog.templates, template.HeadedIn source) ∧
    ∀ preamble entries, Writable preamble entries →
      ∃ catalog, parse (preamble ++ entries.flatMap Entry.text) = .ok catalog ∧
        catalog.templates = written preamble entries := by
  refine ⟨?_, fun preamble entries => exists_parse_written⟩
  intro source catalog hparse
  obtain ⟨-, htemplates⟩ := parse_eq_ok_iff.mp hparse
  rw [htemplates]
  refine ⟨?_, pairwise_line_blocks source, ?_⟩
  · have hblocks : ((blocks source).map Block.template).flatMap (fun template =>
        source.rawLine template.line ++ template.body) =
          (blocks source).flatMap fun block => block.header.raw ++ block.template.body := by
      rw [List.flatMap_map]
      apply List.flatMap_congr
      intro block hmem
      rw [rawLine_line_of_mem_blocks hmem]
    rw [hblocks, preamble_append_blocks]
  · intro template hmem
    obtain ⟨block, hblock, rfl⟩ := List.mem_map.mp hmem
    exact headedIn_of_mem_blocks hblock

/-- Blanks behind a name, an empty body and a last line without a line feed are
    neither lost nor made up. -/
theorem sources_settle_catalogs_unterminated :
    (∃ catalog, parse "top\n$a \r\n\nx\n$b\n$c d\nend".toList = .ok catalog ∧
      catalog.templates = [⟨['a'], "\nx\n".toList, 2⟩, ⟨['b'], [], 5⟩,
        ⟨"c d".toList, "end".toList, 6⟩] ∧
      Text.preamble "top\n$a \r\n\nx\n$b\n$c d\nend".toList ++
        catalog.templates.flatMap (fun template =>
          Text.rawLine "top\n$a \r\n\nx\n$b\n$c d\nend".toList template.line ++
            template.body) = "top\n$a \r\n\nx\n$b\n$c d\nend".toList) ∧
    Writable "top\n".toList [⟨['a'], "\nx\n".toList⟩, ⟨['$'], []⟩, ⟨['c'], "end".toList⟩] ∧
    ∃ catalog, parse "top\n$a\n\nx\n$$\n$c\nend".toList = .ok catalog ∧
      catalog.templates = [⟨['a'], "\nx\n".toList, 2⟩, ⟨['$'], [], 5⟩,
        ⟨['c'], "end".toList, 6⟩] := by
  obtain ⟨hread, hwrite⟩ := sources_settle_catalogs
  have hwritable : Writable "top\n".toList
      [⟨['a'], "\nx\n".toList⟩, ⟨['$'], []⟩, ⟨['c'], "end".toList⟩] := by
    have hentries : ∀ entry ∈ [Entry.mk ['a'] "\nx\n".toList, ⟨['$'], []⟩, ⟨['c'], "end".toList⟩],
        entry.Writable := by
      simp only [List.forall_mem_cons, List.not_mem_nil, false_implies, implies_true, and_true]
      refine ⟨⟨by decide, by decide, ?_, by decide⟩, ⟨by decide, by decide, ?_, by decide⟩,
        ⟨by decide, by decide, ?_, by decide⟩⟩
      all_goals
        intro c hc
        cases hc
        rfl
    exact ⟨by decide, by decide, hentries, by decide, by decide⟩
  refine ⟨?_, hwritable, ?_⟩
  · obtain ⟨catalog, hparse⟩ : ∃ catalog,
      parse "top\n$a \r\n\nx\n$b\n$c d\nend".toList = .ok catalog := ⟨_, rfl⟩
    refine ⟨catalog, hparse, ?_, (hread _ _ hparse).1⟩
    cases hparse
    rfl
  · exact hwrite _ _ hwritable

end Catalog

end CheckPlan
