import CheckPlan.Proofs.Problem.Located

namespace CheckPlan

namespace Block

/-- The lines of the block, the header first. -/
def lines (block : Block) : List Line :=
  block.header :: block.body

theorem group_cons_of_header {line : Line} (hheader : line.isHeader = true) (rest : List Line) :
    group (line :: rest) = ([], ⟨line, (group rest).1⟩ :: (group rest).2) := by
  rw [group, hheader]
  rfl

theorem group_cons_of_not_header {line : Line} (hheader : line.isHeader = false)
    (rest : List Line) : group (line :: rest) = (line :: (group rest).1, (group rest).2) := by
  rw [group, hheader]
  rfl

/-- No line is lost and none is moved. -/
theorem group_lines (all : List Line) : (group all).1 ++ (group all).2.flatMap lines = all := by
  induction all with
  | nil => rfl
  | cons line rest ih =>
    cases hheader : line.isHeader with
    | true =>
      rw [group_cons_of_header hheader, List.nil_append, List.flatMap_cons, lines,
        List.cons_append, ih]
    | false => rw [group_cons_of_not_header hheader, List.cons_append, ih]

theorem group_fst (all : List Line) :
    (group all).1 = all.takeWhile fun line => !line.isHeader := by
  induction all with
  | nil => rfl
  | cons line rest ih =>
    rw [List.takeWhile_cons, ← ih]
    cases hheader : line.isHeader with
    | true => rw [group_cons_of_header hheader, if_neg (by decide)]
    | false => rw [group_cons_of_not_header hheader, if_pos (by decide)]

/-- Lines that are no headers stay above the blocks. -/
theorem group_append {above : List Line} (habove : ∀ line ∈ above, line.isHeader = false)
    (rest : List Line) : group (above ++ rest) = (above ++ (group rest).1, (group rest).2) := by
  induction above with
  | nil => rfl
  | cons line more ih =>
    obtain ⟨hline, hmore⟩ := List.forall_mem_cons.mp habove
    rw [List.cons_append, group_cons_of_not_header hline, ih hmore, List.cons_append]

/-- The body of a block with another block below it ends with a line, since the
    header of the other block starts one. -/
private theorem pairwise_group {all : List Line}
    (hends : all.Pairwise fun line _ => line.raw.getLast? = some '\n') :
    (group all).2.Pairwise fun block _ => block.template.body.EndsLine := by
  induction all with
  | nil => exact List.Pairwise.nil
  | cons line rest ih =>
    rw [List.pairwise_cons] at hends
    cases hheader : line.isHeader with
    | false =>
      rw [group_cons_of_not_header hheader]
      exact ih hends.2
    | true =>
      have hrest := hends.2
      rw [← group_lines rest, List.pairwise_append] at hrest
      rw [group_cons_of_header hheader, List.pairwise_cons]
      refine ⟨fun later hlater => ?_, ih hends.2⟩
      apply Text.endsLine_flatMap
      intro below hbelow
      have hheader : later.header ∈ (group rest).2.flatMap lines :=
        List.mem_flatMap.mpr ⟨later, hlater, List.mem_cons_self⟩
      exact Text.endsLine_iff.mpr (.inr (hrest.2.2 below hbelow later.header hheader))

end Block

/-- Whether the characters of a line make it a header. -/
def Text.opensBlock (raw : Text) : Bool :=
  raw.head? = some '$'

/-- The lines above the first header, put together. -/
def Text.preamble (source : Text) : Text :=
  (source.rawLines.takeWhile fun raw => !raw.opensBlock).flatten

/-- The characters of the line with a number, with what ends the line. -/
def Text.rawLine (source : Text) (number : Nat) : Text :=
  (source.rawLines[number - 1]?).getD []

/-- The line of the template is a line of the source, and a dollar sign and the
    name of the template, with blanks at most behind it. -/
def Template.HeadedIn (template : Template) (source : Text) : Prop :=
  1 ≤ template.line ∧ ∃ rest, source.rawLines[template.line - 1]? = some ('$' :: rest) ∧
    Text.trimEnd rest = template.name

namespace Catalog

private theorem preamble_eq (source : Text) :
    source.preamble = (Block.group source.lines).1.flatMap Line.raw := by
  rw [Text.preamble, Block.group_fst, ← Line.map_raw_lines, List.takeWhile_map, ← List.flatMap_def]
  rfl

/-- The preamble and the blocks make up the whole source again. -/
theorem preamble_append_blocks (source : Text) :
    source.preamble ++
      (blocks source).flatMap (fun block => block.header.raw ++ block.template.body) = source :=
  calc source.preamble ++
        (blocks source).flatMap (fun block => block.header.raw ++ block.template.body)
      = (Block.group source.lines).1.flatMap Line.raw ++
          ((blocks source).flatMap Block.lines).flatMap Line.raw := by
        rw [preamble_eq, List.flatMap_assoc]
        rfl
    _ = source.lines.flatMap Line.raw := by
        rw [← List.flatMap_append, blocks, Block.group_lines]
    _ = source := by
        rw [List.flatMap_def, Line.map_raw_lines, Text.flatten_rawLines]

theorem getElem?_rawLines_of_mem_blocks {source : Text} {block : Block}
    (hmem : block ∈ blocks source) :
    1 ≤ block.header.number ∧
      source.rawLines[block.header.number - 1]? = some block.header.raw := by
  have hline : block.header ∈ source.lines :=
    (map_header_blocks_sublist source).subset (List.mem_map_of_mem hmem)
  obtain ⟨hpositive, hget⟩ := Line.getElem?_lines_of_mem hline
  refine ⟨hpositive, ?_⟩
  rw [← Line.map_raw_lines, List.getElem?_map, hget, Option.map_some]

theorem rawLine_line_of_mem_blocks {source : Text} {block : Block}
    (hmem : block ∈ blocks source) : source.rawLine block.template.line = block.header.raw := by
  rw [Text.rawLine, Block.template, (getElem?_rawLines_of_mem_blocks hmem).2, Option.getD_some]

theorem headedIn_of_mem_blocks {source : Text} {block : Block} (hmem : block ∈ blocks source) :
    block.template.HeadedIn source := by
  obtain ⟨hpositive, hget⟩ := getElem?_rawLines_of_mem_blocks hmem
  have hheader := isHeader_of_mem_blocks hmem
  rw [Line.isHeader, decide_eq_true_eq, List.head?_eq_some_iff] at hheader
  obtain ⟨rest, hrest⟩ := hheader
  refine ⟨hpositive, rest, ?_, ?_⟩
  · rw [← hrest]
    exact hget
  · rw [Block.template, Block.name, hrest, List.tail_cons]

/-- The headers of the blocks are further and further down. -/
theorem pairwise_line_blocks (source : Text) :
    ((blocks source).map Block.template).Pairwise fun left right => left.line < right.line := by
  have hnumbers := Line.pairwise_number_numberFrom 1 0 source.rawLines
  have hheaders := hnumbers.sublist (map_header_blocks_sublist source)
  rw [List.pairwise_map] at hheaders ⊢
  exact hheaders

theorem pairwise_endsLine_blocks (source : Text) :
    (blocks source).Pairwise fun block _ => block.template.body.EndsLine := by
  apply Block.pairwise_group
  have hlines := Text.pairwise_rawLines source
  rwa [← Line.map_raw_lines, List.pairwise_map] at hlines

theorem body_suffix_of_getLast?_blocks {block : Block}
    (hlast : (blocks source).getLast? = some block) : block.template.body <:+ source := by
  obtain ⟨above, hblocks⟩ := List.getLast?_eq_some_iff.mp hlast
  have hsource := preamble_append_blocks source
  rw [hblocks, List.flatMap_append, List.flatMap_singleton, ← List.append_assoc,
    ← List.append_assoc] at hsource
  exact ⟨_, hsource⟩

end Catalog

end CheckPlan
