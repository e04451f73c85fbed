import CheckPlan.Assignment.Statement
import CheckPlan.Proofs.Earlier
import CheckPlan.Proofs.Text.Lines
import CheckPlan.Proofs.Text.Segments

namespace CheckPlan

/-- What a line says about a group or a host. -/
inductive Declaration
  | group (name : Text) (segments : List Text)
  | host (name : Text) (segments : List Text)
  | malformed (expected : Text)
  deriving DecidableEq, Repr

namespace Declaration

/-- The name before the first space and the segments behind it. A text without
    a space, or with a space in front, has neither. -/
def definition? (text : Text) : Option (Text × List Text) :=
  if ' ' ∈ text ∧ text.head? ≠ some ' ' then
    some (text.takeWhile (· ≠ ' '), Text.segments (text.dropWhile (· ≠ ' ')).tail)
  else
    none

/-- What a trimmed line says. An at sign makes it a group's. -/
def ofText : Text → Declaration
  | '@' :: text =>
    match definition? text with
    | some (name, segments) => .group name segments
    | none => .malformed Statement.groupForm
  | text =>
    match definition? text with
    | some (name, segments) => .host name segments
    | none => .malformed Statement.hostForm

/-- What a line says, unless it is blank or a comment. -/
def ofLine? (raw : Text) : Option Declaration :=
  let text := Text.trim raw
  if text = [] ∨ text.head? = some '#' then none else some (ofText text)

theorem ofLine?_eq_some_iff {raw : Text} {declaration : Declaration} :
    ofLine? raw = some declaration ↔
      Text.trim raw ≠ [] ∧ (Text.trim raw).head? ≠ some '#' ∧
        ofText (Text.trim raw) = declaration := by
  unfold ofLine?
  dsimp only
  split
  · next hskip =>
    simp only [reduceCtorEq, false_iff]
    rintro ⟨hne, hcomment, -⟩
    exact hskip.elim hne hcomment
  · next hkeep =>
    rw [not_or] at hkeep
    rw [Option.some.injEq]
    exact ⟨fun htext => ⟨hkeep.1, hkeep.2, htext⟩, fun hall => hall.2.2⟩

/-- The group that a line adds to. -/
def group? : Declaration → Option Text
  | .group name _ => some name
  | _ => none

/-- The host that a line assigns to. -/
def host? : Declaration → Option Text
  | .host name _ => some name
  | _ => none

/-- The groups that lines add to, in the order in which they first come up. -/
def groupNames (declarations : List Declaration) : List Text :=
  (declarations.filterMap group?).eraseDups

/-- The hosts that lines assign to, in the order in which they first come up. -/
def hostNames (declarations : List Declaration) : List Text :=
  (declarations.filterMap host?).eraseDups

theorem mem_groupNames_iff {name : Text} {declarations : List Declaration} :
    name ∈ groupNames declarations ↔ ∃ segments, .group name segments ∈ declarations := by
  rw [groupNames, List.mem_eraseDups, List.mem_filterMap]
  constructor
  · rintro ⟨declaration, hmem, hname⟩
    cases declaration with
    | host other segments => cases hname
    | malformed expected => cases hname
    | group other segments =>
      cases hname
      exact ⟨segments, hmem⟩
  · rintro ⟨segments, hmem⟩
    exact ⟨_, hmem, rfl⟩

theorem mem_hostNames_iff {name : Text} {declarations : List Declaration} :
    name ∈ hostNames declarations ↔ ∃ segments, .host name segments ∈ declarations := by
  rw [hostNames, List.mem_eraseDups, List.mem_filterMap]
  constructor
  · rintro ⟨declaration, hmem, hname⟩
    cases declaration with
    | group other segments => cases hname
    | malformed expected => cases hname
    | host other segments =>
      cases hname
      exact ⟨segments, hmem⟩
  · rintro ⟨segments, hmem⟩
    exact ⟨_, hmem, rfl⟩

theorem groupNames_concat (declarations : List Declaration) (declaration : Declaration) :
    groupNames (declarations ++ [declaration]) =
      match declaration.group? with
      | none => groupNames declarations
      | some name =>
        if name ∈ groupNames declarations then groupNames declarations
        else groupNames declarations ++ [name] := by
  rw [groupNames, List.filterMap_append]
  cases hname : declaration.group? with
  | none => simp [hname, groupNames]
  | some name =>
    rw [List.filterMap_cons_some hname, List.filterMap_nil, eraseDups_concat]
    rfl

theorem hostNames_concat (declarations : List Declaration) (declaration : Declaration) :
    hostNames (declarations ++ [declaration]) =
      match declaration.host? with
      | none => hostNames declarations
      | some name =>
        if name ∈ hostNames declarations then hostNames declarations
        else hostNames declarations ++ [name] := by
  rw [hostNames, List.filterMap_append]
  cases hname : declaration.host? with
  | none => simp [hname, hostNames]
  | some name =>
    rw [List.filterMap_cons_some hname, List.filterMap_nil, eraseDups_concat]
    rfl

theorem takeWhile_append_space {name rest : Text} (hname : ' ' ∉ name) :
    (name ++ ' ' :: rest).takeWhile (· ≠ ' ') = name := by
  have hall : ∀ c ∈ name, decide (c ≠ ' ') = true := by
    intro c hmem
    simpa using fun heq : c = ' ' => hname (heq ▸ hmem)
  rw [List.takeWhile_append_of_pos hall]
  simp

theorem dropWhile_append_space {name rest : Text} (hname : ' ' ∉ name) :
    (name ++ ' ' :: rest).dropWhile (· ≠ ' ') = ' ' :: rest := by
  have hall : ∀ c ∈ name, decide (c ≠ ' ') = true := by
    intro c hmem
    simpa using fun heq : c = ' ' => hname (heq ▸ hmem)
  rw [List.dropWhile_append_of_pos hall]
  simp

theorem definition?_append_space {name rest : Text} (hname : ' ' ∉ name) (hne : name ≠ []) :
    definition? (name ++ ' ' :: rest) = some (name, Text.segments rest) := by
  obtain ⟨c, more, rfl⟩ := List.exists_cons_of_ne_nil hne
  have hc : ¬ c = ' ' := fun heq => hname (heq ▸ List.mem_cons_self)
  have hcond : ' ' ∈ (c :: more) ++ ' ' :: rest ∧
      ((c :: more) ++ ' ' :: rest).head? ≠ some ' ' := by
    simp [hc]
  rw [definition?, if_pos hcond, takeWhile_append_space hname, dropWhile_append_space hname,
    List.tail_cons]

theorem definition?_eq_some_iff {text name : Text} {segments : List Text} :
    definition? text = some (name, segments) ↔
      ∃ rest, text = name ++ ' ' :: rest ∧ ' ' ∉ name ∧ name ≠ [] ∧
        segments = Text.segments rest := by
  constructor
  · intro hsome
    have hcond : ' ' ∈ text ∧ text.head? ≠ some ' ' := by
      by_contra hnot
      rw [definition?, if_neg hnot] at hsome
      cases hsome
    obtain ⟨front, rest, rfl, hfront⟩ := List.eq_append_cons_of_mem hcond.1
    have hne : front ≠ [] := by
      rintro rfl
      exact hcond.2 rfl
    rw [definition?_append_space hfront hne, Option.some.injEq, Prod.mk.injEq] at hsome
    obtain ⟨rfl, rfl⟩ := hsome
    exact ⟨rest, rfl, hfront, hne, rfl⟩
  · rintro ⟨rest, rfl, hname, hne, rfl⟩
    exact definition?_append_space hname hne

end Declaration

/-- The declarations of a source, in order. -/
def Text.declarations (source : Text) : List Declaration :=
  source.rawLines.filterMap Declaration.ofLine?

/-- What a source declares stands on one of its lines, so there is no line feed
    in it. -/
theorem Text.exists_of_mem_declarations {source : Text} {declaration : Declaration}
    (hmem : declaration ∈ source.declarations) :
    ∃ raw, Declaration.ofLine? raw = some declaration ∧ '\n' ∉ Text.trim raw := by
  obtain ⟨raw, hraw, hline⟩ := List.mem_filterMap.mp hmem
  exact ⟨raw, hline, not_mem_trim_of_isLine (isLine_of_mem_rawLines hraw)⟩

namespace Statement

/-- What a statement says, without the places of its segments. -/
def declaration : Statement → Declaration
  | .group name segments => .group name (segments.map Piece.text)
  | .host name segments => .host name (segments.map Piece.text)
  | .malformed expected => .malformed expected

/-- A piece and its text define the same. A trimmed text that has a space has
    something behind it, so that the segments are never all blank. -/
private theorem map_definition? {piece : Piece}
    (hlast : ∀ c, piece.text.getLast? = some c → isBlank c = false) :
    (definition? piece).map (fun (name, segments) => (name, segments.map Piece.text)) =
      Declaration.definition? piece.text := by
  unfold definition?
  split
  · next hnone =>
    rw [Piece.cut?_eq_none_iff] at hnone
    rw [Declaration.definition?, if_neg fun hcond => hnone hcond.1, Option.map_none]
  · next name segments hcut =>
    obtain ⟨htext, hname, -, -⟩ := Piece.cut?_eq_some hcut
    have hrest : ¬ Text.trim segments.text = [] := by
      rw [Text.trim_eq_nil_iff]
      intro hblank
      exact Text.not_blank_of_getLast? hlast htext (List.cons_ne_nil _ _)
        (Text.blank_cons_iff.mpr ⟨rfl, hblank⟩)
    by_cases hnil : name.text = []
    · rw [if_pos (.inl hnil), htext, hnil, Declaration.definition?, if_neg (by simp),
        Option.map_none]
    · rw [if_neg (by simp [hnil, hrest]), htext, Declaration.definition?_append_space hname hnil,
        Option.map_some, Text.segments, ← Piece.map_text_splitFrom ',' segments.start]
      simp [Piece.split, Function.comp_def]

/-- What a line says with places is what it says without them. -/
theorem map_ofLine? (line : Line) :
    (ofLine? line).map declaration = Declaration.ofLine? line.raw := by
  have htext : line.content.trim.text = Text.trim line.raw := by
    rw [Piece.text_trim, Line.trim_raw, Line.content]
  have hlast : ∀ c, line.content.trim.text.getLast? = some c → isBlank c = false := by
    rw [htext]
    exact fun c => Text.isBlank_of_getLast?_trim
  unfold ofLine? Declaration.ofLine?
  simp only [← htext]
  split
  · next hnil => rw [if_pos (.inl hnil), Option.map_none]
  · next hcomment =>
    have hhead : line.content.trim.text.head? = some '#' := by rw [hcomment, List.head?_cons]
    rw [if_pos (.inr hhead), Option.map_none]
  · next rest hgroup =>
    have hdrop : (line.content.trim.drop 1).text = rest := by
      rw [Piece.drop, hgroup, List.drop_one, List.tail_cons]
    have hdefinition := @map_definition? (line.content.trim.drop 1) (by
      intro c hc
      apply hlast c
      rw [hdrop] at hc
      rw [hgroup, List.getLast?_cons, hc, Option.getD_some])
    rw [hdrop] at hdefinition
    rw [hgroup, if_neg (by simp), Declaration.ofText, ← hdefinition]
    cases definition? (line.content.trim.drop 1) <;> rfl
  · next hnil hcomment hgroup =>
    have hdefinition := map_definition? hlast
    have hcond : ¬ (line.content.trim.text = [] ∨ line.content.trim.text.head? = some '#') := by
      rintro (heq | hhead)
      · exact hnil heq
      · obtain ⟨rest, hrest⟩ := List.head?_eq_some_iff.mp hhead
        exact hcomment rest hrest
    rw [if_neg hcond, Declaration.ofText.eq_2 _ hgroup, ← hdefinition]
    cases definition? line.content.trim <;> rfl

end Statement

/-- What the clause says, without the places of its segments. -/
def Clause.declaration (clause : Clause) : Declaration :=
  clause.statement.declaration

/-- The clauses of a source say what its declarations say. -/
theorem Text.map_declaration_clauses (source : Text) :
    source.clauses.map Clause.declaration = source.declarations := by
  rw [declarations, ← Line.map_raw_lines, List.filterMap_map, clauses, List.map_filterMap]
  congr 1
  funext line
  rw [Function.comp_apply, ← Statement.map_ofLine?, Option.map_map]
  rfl

end CheckPlan
