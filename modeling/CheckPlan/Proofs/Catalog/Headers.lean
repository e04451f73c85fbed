import CheckPlan.Proofs.Catalog.Grouped
import CheckPlan.Proofs.Catalog.Registered
import CheckPlan.Proofs.Earlier
import Mathlib.Data.List.Infix
import Mathlib.Data.List.Lattice
import Mathlib.Data.List.Pairwise

namespace CheckPlan

/-- The name that a line gives as a header, which is the rest of it without the
    blanks at the end. -/
def Line.headerName (line : Line) : Text :=
  Text.trimEnd line.raw.tail

/-- The headers of a source, in order. -/
def Text.headers (source : Text) : List Line :=
  source.lines.filter Line.isHeader

/-- What is wrong with the name of a header below others with their names: there
    is none, or it is one of theirs. -/
def Cause.ofHeader? (above : List Text) (name : Text) : Option Cause :=
  if name = [] then some .unnamedTemplate
  else if above.contains name then some (.duplicateTemplate name)
  else none

namespace Cause

variable {above names : List Text} {name : Text}

theorem ofHeader?_eq_none_iff : ofHeader? above name = none ↔ name ≠ [] ∧ name ∉ above := by
  rw [ofHeader?, ← List.contains_iff_mem]
  by_cases hname : name = []
  · simp [hname]
  · cases above.contains name <;> simp [hname]

private theorem ofHeader?_eq_duplicateTemplate_iff {other : Text} :
    ofHeader? above other = some (.duplicateTemplate name) ↔
      other ≠ [] ∧ other ∈ above ∧ other = name := by
  rw [ofHeader?, ← List.contains_iff_mem]
  by_cases hother : other = []
  · simp [hother]
  · cases above.contains other <;> simp [hother]

/-- All headers with a name but the first are at fault. -/
private theorem count_duplicateTemplate (hname : name ≠ []) (names : List Text) :
    ((withEarlier [] names).filterMap fun (above, other) => ofHeader? above other).count
        (.duplicateTemplate name) = names.count name - 1 := by
  have hcount := countP_withEarlier name [] names
  rw [if_neg List.not_mem_nil] at hcount
  rw [← hcount, List.count_filterMap]
  congr 1
  funext ⟨above, other⟩
  rw [Bool.eq_iff_iff, beq_iff_eq, ofHeader?_eq_duplicateTemplate_iff, decide_eq_true_eq]
  constructor
  · rintro ⟨-, hmem, rfl⟩
    exact ⟨rfl, hmem⟩
  · rintro ⟨rfl, hmem⟩
    exact ⟨hname, hmem, rfl⟩

end Cause

namespace Block

/-- The block that starts with the first of some lines, if that is a header. Its
    body goes up to the next header. -/
def atStart? : List Line → Option Block
  | [] => none
  | line :: rest =>
    if line.isHeader then some ⟨line, rest.takeWhile fun below => !below.isHeader⟩ else none

/-- There is a block for each header. -/
private theorem group_snd (lines : List Line) :
    (group lines).2 = lines.tails.filterMap atStart? := by
  induction lines with
  | nil => rfl
  | cons line rest ih =>
    rw [List.tails_cons, List.filterMap_cons, ← ih, atStart?]
    cases hheader : line.isHeader with
    | true => rw [group_cons_of_header hheader, group_fst, if_pos rfl]
    | false => rw [group_cons_of_not_header hheader, if_neg (by decide)]

/-- What is wrong with a block below others. -/
def cause? (above : List Block) (block : Block) : Option Cause :=
  Cause.ofHeader? (above.map name) block.name

end Block

namespace Catalog

theorem map_header_blocks (source : Text) : (blocks source).map Block.header = source.headers :=
  Block.map_header_group source.lines

private theorem map_name_blocks (source : Text) :
    (blocks source).map Block.name = source.headers.map Line.headerName := by
  rw [← map_header_blocks, List.map_map]
  rfl

/-- The catalog has the names that are not empty. -/
def Knows (catalog : Catalog) (names : List Text) : Prop :=
  ∀ name, name ≠ [] → (name ∈ catalog.templates.map Template.name ↔ name ∈ names)

section Knows

variable {catalog : Catalog} {above : List Text} {block : Block}

/-- A block is taken in when nothing is wrong with its name. The catalog knows the
    name from then on. -/
theorem Knows.exists_register (hknows : catalog.Knows above)
    (hnone : Cause.ofHeader? above block.name = none) :
    ∃ grown, block.register catalog = .ok grown ∧
      grown.templates = catalog.templates ++ [block.template] ∧
      grown.Knows (above ++ [block.name]) := by
  obtain ⟨hname, hfree⟩ := Cause.ofHeader?_eq_none_iff.mp hnone
  rw [← hknows _ hname] at hfree
  have hcontains : ¬ catalog.contains block.template.name = true :=
    fun htaken => hfree ((contains_eq_true_iff _ _).mp htaken)
  refine ⟨⟨_, distinct_concat hcontains⟩, Block.register_eq_ok_iff.mpr ⟨hname, hfree, rfl⟩, rfl, ?_⟩
  intro other hother
  rw [List.map_append, List.mem_append, List.mem_append, hknows other hother]
  rfl

/-- A block is turned away for what is wrong with its name. The catalog knows the
    name already, unless it is empty. -/
theorem Knows.register_eq_error (hknows : catalog.Knows above) {cause : Cause}
    (hcause : Cause.ofHeader? above block.name = some cause) :
    block.register catalog = .error (block.problem cause) ∧
      catalog.Knows (above ++ [block.name]) := by
  unfold Cause.ofHeader? at hcause
  unfold Block.register
  split at hcause
  · next hempty =>
    cases hcause
    refine ⟨if_pos hempty, fun other hother => ?_⟩
    simp [hknows other hother, hempty, hother]
  · next hname =>
    split at hcause
    · next hmem =>
      rw [List.contains_iff_mem] at hmem
      cases hcause
      have htaken : catalog.register block.template = .error block.template := by
        rw [register_eq_error_iff, contains_eq_true_iff]
        exact ⟨(hknows _ hname).mpr hmem, rfl⟩
      refine ⟨by rw [if_neg hname, htaken]; rfl, fun other hother => ?_⟩
      rw [hknows other hother, List.mem_append, List.mem_singleton, iff_self_or]
      rintro rfl
      exact hmem
    · cases hcause

end Knows

section RegisterAll

variable {catalog : Catalog} {above : List Block}

/-- Blocks are turned away for their names alone. -/
theorem snd_registerAll (hknows : catalog.Knows (above.map Block.name)) (blocks : List Block) :
    (registerAll catalog blocks).2 = (withEarlier above blocks).map fun (above, block) =>
      (block, (block.cause? above).map block.problem) := by
  induction blocks generalizing catalog above with
  | nil => rfl
  | cons block rest ih =>
    cases hcause : block.cause? above with
    | none =>
      obtain ⟨grown, hregister, -, hgrown⟩ := hknows.exists_register hcause
      rw [← List.map_singleton, ← List.map_append] at hgrown
      simp [registerAll, withEarlier, hregister, hcause, ih hgrown]
    | some cause =>
      obtain ⟨hregister, hsame⟩ := hknows.register_eq_error hcause
      rw [← List.map_singleton, ← List.map_append] at hsame
      simp [registerAll, withEarlier, hregister, hcause, ih hsame]

/-- The templates of the other blocks are taken in, in their order. -/
private theorem templates_registerAll_eq (hknows : catalog.Knows (above.map Block.name))
    (blocks : List Block) :
    (registerAll catalog blocks).1.templates = catalog.templates ++
      ((withEarlier above blocks).filter fun (above, block) => block.cause? above = none).map
        fun (_, block) => block.template := by
  induction blocks generalizing catalog above with
  | nil => exact (List.append_nil _).symm
  | cons block rest ih =>
    rw [registerAll, withEarlier]
    cases hcause : block.cause? above with
    | none =>
      obtain ⟨grown, hregister, htemplates, hgrown⟩ := hknows.exists_register hcause
      rw [← List.map_singleton, ← List.map_append] at hgrown
      rw [hregister, List.filter_cons_of_pos (by simp [hcause]), List.map_cons,
        List.append_cons, ← htemplates, ← ih hgrown]
    | some cause =>
      obtain ⟨hregister, hsame⟩ := hknows.register_eq_error hcause
      rw [← List.map_singleton, ← List.map_append] at hsame
      rw [hregister, List.filter_cons_of_neg (by simp [hcause]), ← ih hsame]

end RegisterAll

section Source

variable (source : Text)

theorem knows_empty : empty.Knows (([] : List Block).map Block.name) :=
  fun _ _ => Iff.rfl

theorem reported_parse_eq_headers :
    Problem.reported (parse source) =
      (withEarlier [] source.headers).filterMap fun (above, header) =>
        (Cause.ofHeader? (above.map Line.headerName) header.headerName).map fun cause =>
          ⟨cause, header.number, header.span⟩ := by
  have hheaders := withEarlier_map Block.header [] (blocks source)
  rw [List.map_nil, map_header_blocks] at hheaders
  rw [reported_parse, snd_registerAll knows_empty, ← List.filterMap_eq_flatMap_toList, hheaders,
    List.filterMap_map, List.filterMap_map]
  congr 1
  funext ⟨above, block⟩
  simp only [Function.comp_apply, Block.cause?, List.map_map]
  rfl

/-- A source is accepted exactly when every header has a name, and no two have the
    same. -/
theorem exists_parse_eq_ok_iff_headers :
    (∃ catalog, parse source = .ok catalog) ↔
      (∀ header ∈ source.headers, header.headerName ≠ []) ∧
        (source.headers.map Line.headerName).Nodup := by
  have htakes : empty.Takes (blocks source) ↔
      (∀ header ∈ source.headers, header.headerName ≠ []) ∧
        (source.headers.map Line.headerName).Nodup := by
    rw [← map_name_blocks, ← map_header_blocks, List.forall_mem_map]
    rfl
  simp only [parse_eq_ok_iff, ← htakes]
  constructor
  · rintro ⟨-, hall, -⟩
    exact hall
  · intro hall
    exact ⟨⟨(blocks source).map Block.template, by rw [List.map_map]; exact hall.2⟩, hall, rfl⟩

/-- Headers at fault are reported from the top down, each once. -/
private theorem pairwise_line_reported_parse :
    (Problem.reported (parse source)).Pairwise fun first second => first.line < second.line := by
  have hnumbers : source.headers.Pairwise fun upper lower => upper.number < lower.number :=
    (Line.pairwise_number_numberFrom 1 0 source.rawLines).sublist List.filter_sublist
  rw [← map_snd_withEarlier [] source.headers, List.pairwise_map] at hnumbers
  rw [reported_parse_eq_headers, List.pairwise_filterMap]
  refine hnumbers.imp ?_
  intro upper lower hlt first hfirst second hsecond
  obtain ⟨cause, -, rfl⟩ := Option.map_eq_some_iff.mp hfirst
  obtain ⟨other, -, rfl⟩ := Option.map_eq_some_iff.mp hsecond
  exact hlt

private theorem count_cause_reported_parse {name : Text} (hname : name ≠ []) :
    ((Problem.reported (parse source)).map Problem.cause).count (.duplicateTemplate name) =
      (source.headers.map Line.headerName).count name - 1 := by
  have hnames := withEarlier_map Line.headerName [] source.headers
  rw [List.map_nil] at hnames
  rw [← Cause.count_duplicateTemplate hname, reported_parse_eq_headers, List.map_filterMap,
    hnames, List.filterMap_map]
  congr 2
  funext ⟨above, header⟩
  simp [Function.comp_def]

/-- The line of a problem is found again by its number. -/
private theorem map_span_of_mem_reported_parse {problem : Problem}
    (hmem : problem ∈ Problem.reported (parse source)) :
    1 ≤ problem.line ∧ (source.lines[problem.line - 1]?).map Line.span = some problem.span := by
  rw [reported_parse_eq_headers, List.mem_filterMap] at hmem
  obtain ⟨⟨above, header⟩, hheader, hproblem⟩ := hmem
  obtain ⟨cause, -, rfl⟩ := Option.map_eq_some_iff.mp hproblem
  have hline := List.mem_of_mem_filter (mem_of_mem_withEarlier hheader)
  obtain ⟨hpositive, hget⟩ := Line.getElem?_lines_of_mem hline
  exact ⟨hpositive, by rw [hget, Option.map_some]⟩

/-- No line is in two blocks. -/
private theorem eq_of_mem_lines {first second : Block} (hfirst : first ∈ blocks source)
    (hsecond : second ∈ blocks source) {line : Line} (hline : line ∈ first.lines)
    (hmem : line ∈ second.lines) : first = second := by
  have hlines : source.lines.Nodup :=
    (Line.pairwise_number_numberFrom 1 0 source.rawLines).imp fun hlt heq =>
      Nat.ne_of_lt hlt (congrArg Line.number heq)
  rw [← Block.group_lines source.lines] at hlines
  obtain ⟨-, hdisjoint⟩ := List.nodup_flatMap.mp hlines.of_append_right
  have : Std.Symm (Function.onFun List.Disjoint Block.lines) := ⟨fun _ _ => List.Disjoint.symm⟩
  by_contra hne
  exact hdisjoint.forall hfirst hsecond hne hline hmem

/-- The lines below a header without a name are in the body of no block that is
    taken in. -/
private theorem not_mem_body_of_name_eq_nil {unnamed block : Block}
    (hunnamed : unnamed ∈ blocks source)
    (hname : unnamed.name = []) (htaken : (block, none) ∈ (registerAll empty (blocks source)).2) :
    ∀ line ∈ unnamed.body, line ∉ block.body := by
  rw [snd_registerAll knows_empty, List.mem_map] at htaken
  obtain ⟨⟨above, found⟩, hfound, heq⟩ := htaken
  rw [Prod.mk.injEq, Option.map_eq_none_iff] at heq
  obtain ⟨rfl, hcause⟩ := heq
  intro line hline hmem
  obtain rfl := eq_of_mem_lines source hunnamed (mem_of_mem_withEarlier hfound)
    (List.mem_cons_of_mem _ hline) (List.mem_cons_of_mem _ hmem)
  exact (Cause.ofHeader?_eq_none_iff.mp hcause).1 hname

end Source

/-- A source as its headers judge it. Every header opens a block, which is turned
    away for its own name and the names above it only. Where a name is empty or
    comes again, what is reported leads back to the line of the header. -/
structure JudgedByHeaders (source : Text) : Prop where
  accepted_iff : (∃ catalog, parse source = .ok catalog) ↔
    (∀ header ∈ source.headers, header.headerName ≠ []) ∧
      (source.headers.map Line.headerName).Nodup
  reported : Problem.reported (parse source) =
    (withEarlier [] source.headers).filterMap fun (above, header) =>
      (Cause.ofHeader? (above.map Line.headerName) header.headerName).map fun cause =>
        ⟨cause, header.number, header.span⟩
  ordered : (Problem.reported (parse source)).Pairwise fun first second =>
    first.line < second.line
  repeated : ∀ name, name ≠ [] →
    ((Problem.reported (parse source)).map Problem.cause).count (.duplicateTemplate name) =
      (source.headers.map Line.headerName).count name - 1
  found : ∀ problem ∈ Problem.reported (parse source),
    1 ≤ problem.line ∧ (source.lines[problem.line - 1]?).map Line.span = some problem.span
  blocks_eq : blocks source = source.lines.tails.filterMap Block.atStart?
  kept : (registerAll empty (blocks source)).1.templates =
    ((withEarlier [] (blocks source)).filter fun (above, block) =>
      Cause.ofHeader? (above.map Block.name) block.name = none).map fun (_, block) =>
        block.template
  unclaimed : ∀ unnamed ∈ blocks source, unnamed.name = [] →
    ∀ block, (block, none) ∈ (registerAll empty (blocks source)).2 →
      ∀ line ∈ unnamed.body, line ∉ block.body

/-- Every source is judged by its headers, whether it is accepted or not. -/
theorem judgedByHeaders (source : Text) : JudgedByHeaders source where
  accepted_iff := exists_parse_eq_ok_iff_headers source
  reported := reported_parse_eq_headers source
  ordered := pairwise_line_reported_parse source
  repeated _ hname := count_cause_reported_parse source hname
  found _ hmem := map_span_of_mem_reported_parse source hmem
  blocks_eq := Block.group_snd source.lines
  kept := templates_registerAll_eq knows_empty (blocks source)
  unclaimed _ hunnamed hname _ htaken :=
    not_mem_body_of_name_eq_nil source hunnamed hname htaken

example : Problem.reported (parse "$a\nx\n$ \ny\n$a\t\r\nz\n$\n$a".toList) =
    [⟨.unnamedTemplate, 3, ⟨5, 7⟩⟩, ⟨.duplicateTemplate ['a'], 5, ⟨10, 13⟩⟩,
      ⟨.unnamedTemplate, 7, ⟨17, 18⟩⟩, ⟨.duplicateTemplate ['a'], 8, ⟨19, 21⟩⟩] := by decide

end Catalog

end CheckPlan
