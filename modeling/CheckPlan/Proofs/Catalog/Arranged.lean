import CheckPlan.Proofs.Catalog.WrittenOut

namespace CheckPlan

namespace Block

/-- The block as a part of a source: its header and its body. -/
def text (block : Block) : Text :=
  block.header.raw ++ block.template.body

/-- The characters of the block's lines, without their places. -/
def parts (block : Block) : Text × List Text :=
  (block.header.raw, block.body.map Line.raw)

/-- The name and the body of the block, without its place. -/
def entry (block : Block) : Catalog.Entry :=
  ⟨block.name, block.template.body⟩

/-- The characters of a block's lines settle its name and its body. -/
private theorem map_entry_eq_of_map_parts_eq {blocks others : List Block}
    (hparts : blocks.map parts = others.map parts) : blocks.map entry = others.map entry := by
  have hentry : entry =
      (fun part : Text × List Text => ⟨Text.trimEnd part.1.tail, part.2.flatten⟩) ∘ parts := by
    funext block
    simp [entry, parts, name, template, List.flatMap_def]
  rw [hentry, ← List.map_map, hparts, List.map_map]

/-- Lines are grouped by their characters alone. -/
private theorem map_parts_group_congr {lines others : List Line}
    (hraw : lines.map Line.raw = others.map Line.raw) :
    (group lines).1.map Line.raw = (group others).1.map Line.raw ∧
      (group lines).2.map parts = (group others).2.map parts := by
  induction lines generalizing others with
  | nil =>
    obtain rfl : others = [] := List.map_eq_nil_iff.mp hraw.symm
    exact ⟨rfl, rfl⟩
  | cons line rest ih =>
    cases others with
    | nil => cases hraw
    | cons other more =>
      obtain ⟨hline, hrest⟩ := List.cons.inj hraw
      obtain ⟨habove, hblocks⟩ := ih hrest
      have hsame : line.isHeader = other.isHeader := by rw [Line.isHeader, Line.isHeader, hline]
      cases hheader : line.isHeader with
      | true =>
        rw [group_cons_of_header hheader, group_cons_of_header (hsame.symm.trans hheader)]
        refine ⟨rfl, ?_⟩
        rw [List.map_cons, List.map_cons, hblocks, parts, parts, hline, habove]
      | false =>
        rw [group_cons_of_not_header hheader, group_cons_of_not_header (hsame.symm.trans hheader)]
        exact ⟨by rw [List.map_cons, List.map_cons, hline, habove], hblocks⟩

/-- A block as grouping makes them: its header is one, and no line below is. -/
def Closed (block : Block) : Prop :=
  block.header.isHeader = true ∧ ∀ line ∈ block.body, line.isHeader = false

private theorem not_isHeader_of_mem_group_fst {all : List Line} :
    ∀ line ∈ (group all).1, line.isHeader = false := by
  intro line hmem
  rw [group_fst] at hmem
  simpa using List.mem_takeWhile_imp hmem

private theorem closed_of_mem_group {all : List Line} : ∀ block ∈ (group all).2, block.Closed := by
  induction all with
  | nil => exact fun block hmem => by cases hmem
  | cons line rest ih =>
    intro block hmem
    cases hheader : line.isHeader with
    | true =>
      rw [group_cons_of_header hheader] at hmem
      rcases List.mem_cons.mp hmem with rfl | hmem
      · exact ⟨hheader, not_isHeader_of_mem_group_fst⟩
      · exact ih block hmem
    | false =>
      rw [group_cons_of_not_header hheader] at hmem
      exact ih block hmem

/-- Blocks put together are grouped into the same blocks again. -/
private theorem group_flatMap_lines {blocks : List Block}
    (hclosed : ∀ block ∈ blocks, block.Closed) :
    group (blocks.flatMap lines) = ([], blocks) := by
  induction blocks with
  | nil => rfl
  | cons block rest ih =>
    obtain ⟨⟨hheader, hbody⟩, hrest⟩ := List.forall_mem_cons.mp hclosed
    rw [List.flatMap_cons, lines, List.cons_append, group_cons_of_header hheader,
      group_append hbody, ih hrest, List.append_nil]

/-- The block's text is cut into the block's lines again, since they are lines of
    a source in order. -/
private theorem rawLines_text_of_sublist {block : Block} {source : Text}
    (hsublist : block.lines.Sublist source.lines) :
    block.text.rawLines = block.lines.map Line.raw := by
  have hraw : (block.lines.map Line.raw).Sublist source.rawLines := by
    rw [← Line.map_raw_lines]
    exact hsublist.map Line.raw
  have htext : block.text = (block.lines.map Line.raw).flatten := by
    rw [text, lines, template, List.map_cons, List.flatten_cons, List.flatMap_def]
  rw [htext]
  refine Text.rawLines_flatten (fun raw hmem => ?_) ?_
  · exact Text.isLine_of_mem_rawLines (hraw.subset hmem)
  · exact (Text.pairwise_rawLines source).sublist hraw

end Block

namespace Catalog

/-- The body of the template of a name. -/
def body? (catalog : Catalog) (name : Text) : Option Text :=
  (catalog.get? name).map Template.body

private theorem body?_eq_some_iff {catalog : Catalog} {name body : Text} :
    catalog.body? name = some body ↔
      ∃ template ∈ catalog.templates, template.name = name ∧ template.body = body := by
  rw [body?, Option.map_eq_some_iff]
  constructor
  · rintro ⟨template, hget, hbody⟩
    obtain ⟨hmem, hname⟩ := get?_eq_some_iff.mp hget
    exact ⟨template, hmem, hname, hbody⟩
  · rintro ⟨template, hmem, hname, hbody⟩
    exact ⟨template, get?_eq_some_iff.mpr ⟨hmem, hname⟩, hbody⟩

theorem contains_eq_isSome_body? (catalog : Catalog) (name : Text) :
    catalog.contains name = (catalog.body? name).isSome := by
  rw [contains, body?, Option.isSome_map]

section Parsed

variable {source : Text} {catalog : Catalog}

/-- The bodies of an accepted source are those of its blocks. -/
theorem body?_eq_some_iff_of_parse (hparse : parse source = .ok catalog) {name body : Text} :
    catalog.body? name = some body ↔ ⟨name, body⟩ ∈ (blocks source).map Block.entry := by
  rw [body?_eq_some_iff, (parse_eq_ok_iff.mp hparse).2]
  simp only [List.mem_map, exists_exists_and_eq_and, Block.entry, Entry.mk.injEq]
  rfl

private theorem rawLines_text_of_mem_blocks {block : Block} (hmem : block ∈ blocks source) :
    block.text.rawLines = block.lines.map Line.raw := by
  apply Block.rawLines_text_of_sublist
  rw [← Block.group_lines source.lines]
  refine List.Sublist.trans ?_ (List.sublist_append_right _ _)
  rw [List.flatMap_def]
  exact List.sublist_flatten_of_mem (List.mem_map_of_mem hmem)

/-- Blocks of a source, below a preamble. All but the last one have to end with a
    line, and the preamble has to hold no header. -/
structure Arranges (preamble : Text) (arranged : List Block) (source : Text) : Prop where
  perm : arranged.Perm (blocks source)
  blocks_end : arranged.Pairwise fun block _ => block.text.EndsLine
  preamble_ends : arranged ≠ [] → preamble.EndsLine
  preamble_free : ∀ raw ∈ preamble.rawLines, raw.opensBlock = false

namespace Arranges

variable {preamble : Text} {arranged : List Block}

private theorem rawLines_eq (harranges : Arranges preamble arranged source) :
    Text.rawLines (preamble ++ arranged.flatMap Block.text) =
      (preamble.lines ++ arranged.flatMap Block.lines).map Line.raw := by
  have hlines : arranged.flatMap (fun block => block.text.rawLines) =
      (arranged.flatMap Block.lines).map Line.raw := by
    rw [List.map_flatMap]
    apply List.flatMap_congr
    intro block hmem
    exact rawLines_text_of_mem_blocks (harranges.perm.subset hmem)
  rw [List.map_append, Line.map_raw_lines, ← hlines, ← Text.rawLines_flatMap harranges.blocks_end]
  by_cases hnone : arranged = []
  · rw [hnone, List.flatMap_nil, List.append_nil, Text.rawLines, List.append_nil]
  · exact Text.rawLines_append (harranges.preamble_ends hnone)

/-- The arranged blocks are found again, one line or another further down. -/
private theorem map_parts_blocks (harranges : Arranges preamble arranged source) :
    (blocks (preamble ++ arranged.flatMap Block.text)).map Block.parts =
      arranged.map Block.parts := by
  have hclosed : ∀ block ∈ arranged, block.Closed := fun block hmem =>
    Block.closed_of_mem_group block (harranges.perm.subset hmem)
  have hfree : ∀ line ∈ preamble.lines, line.isHeader = false :=
    isHeader_of_mem_numberFrom harranges.preamble_free
  have hraw := harranges.rawLines_eq
  rw [← Line.map_raw_lines] at hraw
  rw [blocks, (Block.map_parts_group_congr hraw).2, Block.group_append hfree,
    Block.group_flatMap_lines hclosed]

/-- Names and bodies do not change when blocks are arranged. -/
private theorem perm_entries (harranges : Arranges preamble arranged source) :
    ((blocks (preamble ++ arranged.flatMap Block.text)).map Block.entry).Perm
      ((blocks source).map Block.entry) := by
  rw [Block.map_entry_eq_of_map_parts_eq harranges.map_parts_blocks]
  exact harranges.perm.map Block.entry

/-- Arranged blocks of an accepted source are accepted, and every name keeps its
    body. -/
theorem exists_parse (harranges : Arranges preamble arranged source)
    (hparse : parse source = .ok catalog) :
    ∃ other, parse (preamble ++ arranged.flatMap Block.text) = .ok other ∧
      ∀ name, other.body? name = catalog.body? name := by
  have hentries := harranges.perm_entries
  have hnames := hentries.map Entry.name
  rw [List.map_map, List.map_map] at hnames
  obtain ⟨⟨hnamed, hdistinct⟩, -⟩ := parse_eq_ok_iff.mp hparse
  have htakes : empty.Takes (blocks (preamble ++ arranged.flatMap Block.text)) := by
    refine ⟨fun block hmem => ?_, hnames.nodup_iff.mpr hdistinct⟩
    have hname : block.name ∈ (blocks source).map Block.name :=
      hnames.subset (List.mem_map_of_mem hmem)
    obtain ⟨found, hfound, hsame⟩ := List.mem_map.mp hname
    exact hsame ▸ hnamed found hfound
  have hother : parse (preamble ++ arranged.flatMap Block.text) =
      .ok ⟨(blocks _).map Block.template, by rw [List.map_map]; exact htakes.2⟩ :=
    parse_eq_ok_iff.mpr ⟨htakes, rfl⟩
  refine ⟨_, hother, fun name => Option.ext fun body => ?_⟩
  rw [body?_eq_some_iff_of_parse hother, body?_eq_some_iff_of_parse hparse, hentries.mem_iff]

end Arranges

end Parsed

end Catalog

end CheckPlan
