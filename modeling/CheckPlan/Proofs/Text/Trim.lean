import CheckPlan.Text.Blank
import Mathlib.Data.List.DropRight

namespace CheckPlan.Text

theorem Blank.append {front back : Text} (hfront : Blank front) (hback : Blank back) :
    Blank (front ++ back) := by
  intro c hmem
  rcases List.mem_append.mp hmem with hmem | hmem
  · exact hfront c hmem
  · exact hback c hmem

theorem trimEnd_eq_rdropWhile (text : Text) : trimEnd text = text.rdropWhile isBlank := rfl

theorem trimEnd_append_blank {text back : Text} (hback : Blank back) :
    trimEnd (text ++ back) = trimEnd text := by
  induction back using List.reverseRecOn with
  | nil => rw [List.append_nil]
  | append_singleton back c ih =>
    have hc : isBlank c = true := hback c (by simp)
    have hrest : Blank back := fun d hmem => hback d (by simp [hmem])
    rw [← List.append_assoc, trimEnd_eq_rdropWhile, List.rdropWhile_concat_pos _ _ _ hc,
      ← trimEnd_eq_rdropWhile, ih hrest]

/-- Trimming at the end does not reach over a part that is not blank. -/
theorem trimEnd_append {front back : Text} (hback : ¬ Blank back) :
    trimEnd (front ++ back) = front ++ trimEnd back := by
  have hne : (back.reverse.dropWhile isBlank).isEmpty = false := by
    rw [List.isEmpty_eq_false_iff]
    intro hnil
    rw [List.dropWhile_eq_nil_iff] at hnil
    exact hback fun c hmem => hnil c (List.mem_reverse.mpr hmem)
  rw [trimEnd, List.reverse_append, List.dropWhile_append, hne]
  simp [trimEnd]

private theorem trimStart_blank_append {front text : Text} (hfront : Blank front) :
    trimStart (front ++ text) = trimStart text := by
  rw [trimStart, List.dropWhile_append_of_pos hfront, trimStart]

theorem trimStart_eq_nil_iff {text : Text} : trimStart text = [] ↔ Blank text := by
  rw [trimStart, List.dropWhile_eq_nil_iff]
  rfl

/-- Trimming at the start takes off blanks only. -/
theorem exists_append_trimStart (text : Text) :
    ∃ front, Blank front ∧ text = front ++ trimStart text := by
  refine ⟨text.takeWhile isBlank, ?_, ?_⟩
  · intro c hmem
    exact List.mem_takeWhile_imp hmem
  · rw [trimStart, List.takeWhile_append_dropWhile]

/-- What trimming at the start leaves is empty or starts with a character that
    is not blank. -/
private theorem isBlank_of_trimStart_eq_cons {text rest : Text} {c : Char}
    (htrim : trimStart text = c :: rest) : isBlank c = false := by
  have hhead := List.head?_dropWhile_not (p := isBlank) (l := text)
  rw [← trimStart, htrim] at hhead
  simpa using hhead

theorem trim_subset (text : Text) : trim text ⊆ text := by
  intro c hmem
  obtain ⟨back, -, hend⟩ := exists_trimEnd_append (trimStart text)
  obtain ⟨front, -, hstart⟩ := exists_append_trimStart text
  rw [hstart, hend]
  exact List.mem_append_right _ (List.mem_append_left _ hmem)

/-- The text with what trimming leaves of it changed, and with the blanks
    around that left where they are. -/
def mapTrimmed (change : Text → Text) (text : Text) : Text :=
  text.takeWhile isBlank ++ change (trim text) ++
    ((trimStart text).reverse.takeWhile isBlank).reverse

theorem exists_mapTrimmed_eq (text : Text) :
    ∃ front back, Blank front ∧ Blank back ∧ text = front ++ trim text ++ back ∧
      ∀ change, mapTrimmed change text = front ++ change (trim text) ++ back := by
  refine ⟨text.takeWhile isBlank, ((trimStart text).reverse.takeWhile isBlank).reverse,
    ?_, ?_, ?_, fun _ => rfl⟩
  · intro c hmem
    exact List.mem_takeWhile_imp hmem
  · intro c hmem
    exact List.mem_takeWhile_imp (List.mem_reverse.mp hmem)
  · rw [trim, trimEnd, List.append_assoc, ← List.reverse_append, List.takeWhile_append_dropWhile,
      List.reverse_reverse, trimStart, List.takeWhile_append_dropWhile]

theorem of_mem_mapTrimmed {change : Text → Text} {text : Text} {c : Char}
    (hmem : c ∈ mapTrimmed change text) : c ∈ text ∨ c ∈ change (trim text) := by
  obtain ⟨front, back, -, -, htext, hchange⟩ := exists_mapTrimmed_eq text
  rw [hchange, List.mem_append, List.mem_append] at hmem
  rw [htext]
  rcases hmem with (hmem | hmem) | hmem
  · exact .inl (List.mem_append_left _ (List.mem_append_left _ hmem))
  · exact .inr (by rwa [htext] at hmem)
  · exact .inl (List.mem_append_right _ hmem)

/-- A text is blank exactly when nothing is left of it. -/
theorem trim_eq_nil_iff {text : Text} : trim text = [] ↔ Blank text := by
  rw [trim, trimEnd_eq_rdropWhile, List.rdropWhile_eq_nil_iff]
  constructor
  · intro hblank
    obtain ⟨front, hfront, hstart⟩ := exists_append_trimStart text
    rw [hstart]
    exact hfront.append hblank
  · intro hblank
    rw [trimStart_eq_nil_iff.mpr hblank]
    simp

/-- Blanks around a text are not looked at. -/
theorem trim_append_blank {front text back : Text} (hfront : Blank front) (hback : Blank back) :
    trim (front ++ text ++ back) = trim text := by
  rw [List.append_assoc, trim, trimStart_blank_append hfront]
  by_cases hblank : Blank text
  · rw [trimStart_eq_nil_iff.mpr (hblank.append hback), trim, trimStart_eq_nil_iff.mpr hblank]
  · have hstart : trimStart (text ++ back) = trimStart text ++ back := by
      have hne : (text.dropWhile isBlank).isEmpty = false := by
        rw [List.isEmpty_eq_false_iff]
        exact fun hnil => hblank (trimStart_eq_nil_iff.mp hnil)
      rw [trimStart, List.dropWhile_append, hne]
      rfl
    rw [hstart, trimEnd_append_blank hback, trim]

theorem blank_nil : Blank [] := fun c hmem => by cases hmem

theorem blank_cons_iff {c : Char} {rest : Text} :
    Blank (c :: rest) ↔ isBlank c = true ∧ Blank rest :=
  List.forall_mem_cons

theorem trim_blank_append {front text : Text} (hfront : Blank front) :
    trim (front ++ text) = trim text := by
  rw [← List.append_nil (front ++ text), trim_append_blank hfront blank_nil]

theorem trim_append_blank_end {text back : Text} (hback : Blank back) :
    trim (text ++ back) = trim text := by
  have htrim := @trim_append_blank [] text back blank_nil hback
  rwa [List.nil_append] at htrim

/-- The first character of a trimmed text is not blank. -/
theorem isBlank_of_trim_eq_cons {text rest : Text} {c : Char} (htrim : trim text = c :: rest) :
    isBlank c = false := by
  obtain ⟨back, -, hend⟩ := exists_trimEnd_append (trimStart text)
  rw [← trim, htrim] at hend
  exact isBlank_of_trimStart_eq_cons hend

/-- The last character of a trimmed text is not blank. -/
theorem isBlank_of_getLast?_trim {text : Text} {c : Char} (hlast : (trim text).getLast? = some c) :
    isBlank c = false := by
  have hne : trim text ≠ [] := by
    intro hnil
    rw [hnil] at hlast
    cases hlast
  have hnot := List.rdropWhile_last_not isBlank (trimStart text) hne
  rw [List.getLast?_eq_some_getLast hne] at hlast
  cases hlast
  exact Bool.eq_false_iff.mpr hnot

/-- Where a text does not end with a blank, none of its ends is all blank. -/
theorem not_blank_of_getLast? {text front back : Text}
    (hlast : ∀ c, text.getLast? = some c → isBlank c = false) (htext : text = front ++ back)
    (hne : back ≠ []) : ¬ Blank back := by
  intro hblank
  have hend := hlast (back.getLast hne) (by
    rw [htext, List.getLast?_append_of_ne_nil _ hne, List.getLast?_eq_some_getLast hne])
  rw [hblank _ (List.getLast_mem hne)] at hend
  cases hend

theorem trimEnd_eq_self {text : Text} (hlast : ∀ c, text.getLast? = some c → isBlank c = false) :
    trimEnd text = text := by
  rw [trimEnd_eq_rdropWhile, List.rdropWhile_eq_self_iff]
  intro hne
  have hend := hlast (text.getLast hne) (List.getLast?_eq_some_getLast hne)
  simp [hend]

/-- A text that neither starts nor ends with a blank is left as it is. -/
theorem trim_eq_self {text : Text} (hfirst : ∀ c, text.head? = some c → isBlank c = false)
    (hlast : ∀ c, text.getLast? = some c → isBlank c = false) : trim text = text := by
  have hstart : trimStart text = text := by
    rw [trimStart, List.dropWhile_eq_self_iff]
    intro hpos
    have hhead := hfirst (text[0]) (by rw [List.head?_eq_getElem?, List.getElem?_eq_getElem hpos])
    simp [hhead]
  rw [trim, hstart, trimEnd_eq_self hlast]

@[simp] theorem trim_trim (text : Text) : trim (trim text) = trim text := by
  apply trim_eq_self
  · intro c hhead
    obtain ⟨rest, hrest⟩ := List.head?_eq_some_iff.mp hhead
    exact isBlank_of_trim_eq_cons hrest
  · intro c hlast
    exact isBlank_of_getLast?_trim hlast

end CheckPlan.Text
