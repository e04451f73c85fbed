import CheckPlan.Proofs.Text.Lines
import CheckPlan.Proofs.Text.Segments
import CheckPlan.Template.Basic

namespace CheckPlan

namespace Template

section Substitute

variable {digits arg : Text} {c : Char}

/-- Digits do not reach over a character that is none of them. -/
private theorem prefix_append_cons_iff (hdigits : c ∉ digits) (front back : Text) :
    digits <+: front ++ c :: back ↔ digits <+: front := by
  constructor
  · intro hprefix
    have hwhole : front ++ [c] <+: front ++ c :: back := ⟨back, by simp⟩
    rcases List.prefix_or_prefix_of_prefix hprefix hwhole with hshort | hlong
    · rcases List.prefix_concat_iff.mp hshort with rfl | hfront
      · simp at hdigits
      · exact hfront
    · exact absurd (hlong.subset (by simp)) hdigits
  · intro hprefix
    exact hprefix.trans (List.prefix_append _ _)

theorem substitute_cons (hdollar : c ≠ '$') (rest : Text) :
    substitute digits arg (c :: rest) = c :: substitute digits arg rest := by
  rw [substitute, if_neg]
  exact fun hfound => hdollar hfound.1

/-- The parts around a character that no placeholder holds are substituted in
    on their own. -/
private theorem substitute_append_cons (hdollar : c ≠ '$') (hdigits : c ∉ digits)
    (front back : Text) :
    substitute digits arg (front ++ c :: back) =
      substitute digits arg front ++ c :: substitute digits arg back := by
  fun_induction substitute digits arg front with
  | case1 => exact substitute_cons hdollar back
  | case2 d rest hfound ih =>
    obtain ⟨hsign, hprefix⟩ := hfound
    rw [List.isPrefixOf_iff_prefix] at hprefix
    have hover : d = '$' ∧ digits.isPrefixOf (rest ++ c :: back) = true := by
      refine ⟨hsign, ?_⟩
      rwa [List.isPrefixOf_iff_prefix, prefix_append_cons_iff hdigits]
    rw [List.cons_append, substitute, if_pos hover,
      List.drop_append_of_le_length hprefix.length_le, ih, List.append_assoc]
  | case3 d rest hnot ih =>
    have hover : ¬ (d = '$' ∧ digits.isPrefixOf (rest ++ c :: back) = true) := by
      rwa [List.isPrefixOf_iff_prefix, prefix_append_cons_iff hdigits,
        ← List.isPrefixOf_iff_prefix]
    rw [List.cons_append, substitute, if_neg hover, ih, List.cons_append]

theorem substitute_append {front : Text} (hfront : '$' ∉ front) (back : Text) :
    substitute digits arg (front ++ back) = front ++ substitute digits arg back := by
  induction front with
  | nil => rfl
  | cons c rest ih =>
    rw [List.mem_cons, not_or] at hfront
    rw [List.cons_append, substitute_cons fun heq => hfront.1 heq.symm, ih hfront.2,
      List.cons_append]

/-- A placeholder that does not occur is not replaced, so it makes no difference
    whether it is looked for first. -/
theorem substitute_eq_self {text : Text} (hnot : ¬ ('$' :: digits) <:+: text) :
    substitute digits arg text = text := by
  fun_induction substitute digits arg text with
  | case1 => rfl
  | case2 c rest hfound ih =>
    obtain ⟨rfl, hprefix⟩ := hfound
    rw [List.isPrefixOf_iff_prefix] at hprefix
    exact absurd (List.cons_prefix_cons.mpr ⟨rfl, hprefix⟩).isInfix hnot
  | case3 c rest hmiss ih =>
    rw [ih fun hinside => hnot (List.infix_cons_iff.mpr (.inr hinside))]

private theorem of_mem_substitute {text : Text} (hmem : c ∈ substitute digits arg text) :
    c ∈ text ∨ c ∈ arg := by
  fun_induction substitute digits arg text with
  | case1 => cases hmem
  | case2 d rest hfound ih =>
    rcases List.mem_append.mp hmem with hmem | hmem
    · exact .inr hmem
    · exact (ih hmem).imp_left fun htext => List.mem_cons_of_mem d (List.mem_of_mem_drop htext)
  | case3 d rest hnot ih =>
    rcases List.mem_cons.mp hmem with rfl | hmem
    · exact .inl List.mem_cons_self
    · exact (ih hmem).imp_left fun htext => List.mem_cons_of_mem d htext

end Substitute

variable {c : Char} {args : List Text}

private theorem not_mem_toDigits (hdigit : c.isDigit = false) (index : Nat) :
    c ∉ Nat.toDigits 10 index := by
  intro hmem
  rw [Nat.isDigit_of_mem_toDigits (by decide) (by decide) hmem] at hdigit
  cases hdigit

/-- What stands in front of the first dollar sign stays. -/
theorem fillFrom_cons (hdollar : c ≠ '$') (index : Nat) (args : List Text) (rest : Text) :
    fillFrom index args (c :: rest) = c :: fillFrom index args rest := by
  induction args generalizing index rest with
  | nil => rfl
  | cons arg args ih => rw [fillFrom, substitute_cons hdollar, ih, fillFrom]

theorem fillFrom_append_cons (hdollar : c ≠ '$') (hdigit : c.isDigit = false) (index : Nat)
    (args : List Text) (front back : Text) :
    fillFrom index args (front ++ c :: back) =
      fillFrom index args front ++ c :: fillFrom index args back := by
  induction args generalizing index front back with
  | nil => rfl
  | cons arg args ih =>
    rw [fillFrom, substitute_append_cons hdollar (not_mem_toDigits hdigit index), ih]
    rfl

/-- A character that is neither a dollar sign nor a digit separates what is filled
    in, whatever the arguments hold. No placeholder reaches over it, and none that
    an argument brings in does. -/
theorem fill_append_separator (hdollar : c ≠ '$') (hdigit : c.isDigit = false)
    (front back : Text) (args : List Text) :
    fill (front ++ c :: back) args = fill front args ++ c :: fill back args :=
  fillFrom_append_cons hdollar hdigit 1 args front back

/-- Both sides bring in placeholders, and the front ends with a dollar sign where
    the back starts with a digit. -/
theorem fill_append_separator_cascading :
    (' ' ≠ '$' ∧ ' '.isDigit = false) ∧
      fill "$1$ 2$1".toList [['$', '2'], [' ', '$', '1']] =
        fill "$1$".toList [['$', '2'], [' ', '$', '1']] ++
          ' ' :: fill "2$1".toList [['$', '2'], [' ', '$', '1']] ∧
      fill "$1$ 2$1".toList [['$', '2'], [' ', '$', '1']] = " $1$ 2 $1".toList :=
  ⟨by decide, fill_append_separator (by decide) rfl "$1$".toList "2$1".toList _, by cbv⟩

theorem not_mem_fillFrom (hargs : ∀ arg ∈ args, c ∉ arg) {text : Text} (htext : c ∉ text)
    (index : Nat) : c ∉ fillFrom index args text := by
  induction args generalizing index text with
  | nil => exact htext
  | cons arg args ih =>
    obtain ⟨harg, hrest⟩ := List.forall_mem_cons.mp hargs
    refine ih hrest (fun hmem => ?_) (index + 1)
    exact (of_mem_substitute hmem).elim htext harg

theorem fillFrom_nil (index : Nat) (args : List Text) : fillFrom index args [] = [] := by
  induction args generalizing index with
  | nil => rfl
  | cons arg args ih => rw [fillFrom, substitute, ih]

private theorem fill_intercalate (hdollar : c ≠ '$') (hdigit : c.isDigit = false) (args : List Text)
    {parts : List Text} (hne : parts ≠ []) :
    fill ([c].intercalate parts) args = [c].intercalate (parts.map (fill · args)) := by
  induction parts with
  | nil => exact absurd rfl hne
  | cons part rest ih =>
    by_cases hrest : rest = []
    · simp [hrest]
    · have hfilled : rest.map (fill · args) ≠ [] := by simpa using hrest
      rw [List.map_cons, List.intercalate_cons_of_ne_nil hrest,
        List.intercalate_cons_of_ne_nil hfilled, List.append_assoc, List.singleton_append, fill,
        fillFrom_append_cons hdollar hdigit, ← fill, ← fill, ih hrest, List.append_assoc,
        List.singleton_append]

/-- When no argument brings in a separator, the parts of a text between its
    separators are filled in on their own. -/
theorem splitOn_fill (hdollar : c ≠ '$') (hdigit : c.isDigit = false)
    (hargs : ∀ arg ∈ args, c ∉ arg) (text : Text) :
    (fill text args).splitOn c = (text.splitOn c).map (fill · args) := by
  have hfree : ∀ part ∈ (text.splitOn c).map (fill · args), c ∉ part := by
    intro filled hfilled hmem
    obtain ⟨part, hpart, rfl⟩ := List.mem_map.mp hfilled
    exact not_mem_fillFrom hargs (Text.not_mem_of_mem_splitOn hpart) 1 hmem
  calc (fill text args).splitOn c
      = (fill ([c].intercalate (text.splitOn c)) args).splitOn c := by
        rw [List.intercalate_splitOn]
    _ = ([c].intercalate ((text.splitOn c).map (fill · args))).splitOn c := by
        rw [fill_intercalate hdollar hdigit args (List.splitOn_ne_nil c text)]
    _ = (text.splitOn c).map (fill · args) :=
        List.splitOn_intercalate c hfree (by simp)

theorem count_fill (hdollar : c ≠ '$') (hdigit : c.isDigit = false)
    (hargs : ∀ arg ∈ args, c ∉ arg) (text : Text) : (fill text args).count c = text.count c := by
  have hparts := congrArg List.length (splitOn_fill hdollar hdigit hargs text)
  rw [List.length_map, Text.length_splitOn, Text.length_splitOn] at hparts
  omega

/-- What stands behind the last line feed of a text is all that can be behind
    the last line feed of the filled in text. -/
theorem endsLine_fill_iff (hargs : ∀ arg ∈ args, '\n' ∉ arg) (text : Text) :
    (fill text args).EndsLine ↔ fill text.openLine args = [] := by
  have hfree : '\n' ∉ fill text.openLine args :=
    not_mem_fillFrom hargs (Text.not_mem_openLine text) 1
  rcases Text.eq_openLine_or text with htext | ⟨front, htext⟩
  · have hfill : fill text args = fill text.openLine args := congrArg (fill · args) htext
    rw [hfill, Text.endsLine_iff_of_not_mem hfree]
  · have hfill : fill text args = fill front args ++ '\n' :: fill text.openLine args :=
      (congrArg (fill · args) htext).trans (fillFrom_append_cons (by decide) rfl 1 args front _)
    rw [hfill, Text.endsLine_append_feed_iff hfree]

end Template

end CheckPlan
