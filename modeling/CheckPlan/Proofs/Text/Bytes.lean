import CheckPlan.Text.Span
import Mathlib.Data.List.Infix

namespace CheckPlan.Text

private theorem byteLength_eq_zero_iff {text : Text} : byteLength text = 0 ↔ text = [] := by
  cases text with
  | nil => simp
  | cons c rest =>
    have hsize := c.utf8Size_pos
    simp only [byteLength_cons, reduceCtorEq, iff_false]
    omega

private theorem length_le_byteLength (text : Text) : text.length ≤ byteLength text := by
  induction text with
  | nil => exact Nat.le_refl 0
  | cons c rest ih =>
    have hsize := c.utf8Size_pos
    rw [List.length_cons, byteLength_cons]
    omega

theorem byteLength_eq_length_iff {text : Text} :
    byteLength text = text.length ↔ ∀ c ∈ text, c.utf8Size = 1 := by
  induction text with
  | nil => simp
  | cons c rest ih =>
    have hsize := c.utf8Size_pos
    have hle := length_le_byteLength rest
    rw [List.forall_mem_cons, ← ih, List.length_cons, byteLength_cons]
    omega

/-- Of two starts of a text, the one with fewer bytes is a start of the other. -/
theorem prefix_of_byteLength_le {first second text : Text} (hfirst : first <+: text)
    (hsecond : second <+: text) (hle : byteLength first ≤ byteLength second) :
    first <+: second := by
  rcases List.prefix_or_prefix_of_prefix hfirst hsecond with hprefix | ⟨rest, hrest⟩
  · exact hprefix
  · have hnone : rest = [] := by
      rw [← byteLength_eq_zero_iff]
      rw [← hrest, byteLength_append] at hle
      omega
    rw [← hrest, hnone, List.append_nil]

theorem eq_of_byteLength_eq {first second text : Text} (hfirst : first <+: text)
    (hsecond : second <+: text) (heq : byteLength first = byteLength second) : first = second := by
  have hforth := prefix_of_byteLength_le hfirst hsecond (Nat.le_of_eq heq)
  have hback := prefix_of_byteLength_le hsecond hfirst (Nat.le_of_eq heq.symm)
  exact hforth.eq_of_length (Nat.le_antisymm hforth.length_le hback.length_le)

private theorem eq_append_of_dropBytes?_eq_some {text back : Text} {count : Nat}
    (hdrop : dropBytes? count text = some back) :
    ∃ front, text = front ++ back ∧ byteLength front = count := by
  induction text generalizing count with
  | nil =>
    cases count with
    | zero => exact ⟨[], Option.some.inj hdrop, rfl⟩
    | succ count => cases hdrop
  | cons c rest ih =>
    cases count with
    | zero => exact ⟨[], Option.some.inj hdrop, rfl⟩
    | succ count =>
      rw [dropBytes?] at hdrop
      split at hdrop
      · next hfits =>
        obtain ⟨front, rfl, hfront⟩ := ih hdrop
        refine ⟨c :: front, rfl, ?_⟩
        rw [byteLength_cons, hfront]
        omega
      · cases hdrop

private theorem eq_append_of_takeBytes?_eq_some {text front : Text} {count : Nat}
    (htake : takeBytes? count text = some front) :
    ∃ back, text = front ++ back ∧ byteLength front = count := by
  induction text generalizing count front with
  | nil =>
    cases count with
    | zero => exact ⟨[], by rw [← Option.some.inj htake, List.append_nil], by cases htake; rfl⟩
    | succ count => cases htake
  | cons c rest ih =>
    cases count with
    | zero => exact ⟨c :: rest, by cases htake; rfl, by cases htake; rfl⟩
    | succ count =>
      rw [takeBytes?] at htake
      split at htake
      · next hfits =>
        obtain ⟨more, hmore, rfl⟩ := Option.map_eq_some_iff.mp htake
        obtain ⟨back, rfl, hlength⟩ := ih hmore
        refine ⟨back, rfl, ?_⟩
        rw [byteLength_cons, hlength]
        omega
      · cases htake

/-- What is read at a span stands in the source behind as many bytes as the span
    says, and takes as many. -/
theorem slice?_eq_some_iff {source text : Text} {span : Span} :
    source.slice? span = some text ↔
      ∃ before after, source = before ++ text ++ after ∧ byteLength before = span.start ∧
        byteLength text = span.stop - span.start := by
  constructor
  · intro hslice
    obtain ⟨back, hdrop, htake⟩ := Option.bind_eq_some_iff.mp hslice
    obtain ⟨before, rfl, hbefore⟩ := eq_append_of_dropBytes?_eq_some hdrop
    obtain ⟨after, rfl, htext⟩ := eq_append_of_takeBytes?_eq_some htake
    exact ⟨before, after, (List.append_assoc _ _ _).symm, hbefore, htext⟩
  · rintro ⟨before, after, rfl, hbefore, htext⟩
    rw [slice?, ← htext, ← hbefore, List.append_assoc, dropBytes?_append, Option.bind_some,
      takeBytes?_append]

end CheckPlan.Text
