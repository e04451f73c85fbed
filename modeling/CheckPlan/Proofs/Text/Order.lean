import CheckPlan.Text.Basic
import Mathlib.Data.List.Basic

namespace CheckPlan.Text

/-- The text in UTF-8. -/
def bytes (text : Text) : List UInt8 :=
  text.flatMap String.utf8EncodeChar

/-- A code point as UTF-8 writes it in one byte above `marker` and `count`
    bytes of six bits each. -/
def encodeIn (marker : Nat) : Nat → Nat → List UInt8
  | 0, code => [UInt8.ofNat (code + marker)]
  | count + 1, code => encodeIn marker count (code / 64) ++ [UInt8.ofNat (code % 64 + 128)]

/-- What `encodeIn` writes of a code point in the first byte. -/
def leading : Nat → Nat → Nat
  | 0, code => code
  | count + 1, code => leading count (code / 64)

theorem toNat_lt (c : Char) : c.toNat < 0x110000 := by
  have hvalid := c.valid
  unfold UInt32.isValidChar Nat.isValidChar at hvalid
  rw [← Char.toNat_val]
  omega

private theorem utf8EncodeChar_eq (c : Char) :
    String.utf8EncodeChar c =
      if c.toNat ≤ 0x7F then encodeIn 0 0 c.toNat
      else if c.toNat ≤ 0x7FF then encodeIn 0xC0 1 c.toNat
      else if c.toNat ≤ 0xFFFF then encodeIn 0xE0 2 c.toNat
      else encodeIn 0xF0 3 c.toNat := by
  have hmax := toNat_lt c
  simp only [String.utf8EncodeChar, Char.toNat_val, encodeIn, Nat.div_div_eq_div_mul,
    List.cons_append, List.nil_append]
  split_ifs
  · rfl
  · have hfirst : c.toNat / 64 % 32 = c.toNat / 64 := by omega
    rw [hfirst]
  · have hfirst : c.toNat / 4096 % 16 = c.toNat / 4096 := by omega
    rw [hfirst]
  · have hfirst : c.toNat / 262144 % 8 = c.toNat / 262144 := by omega
    rw [hfirst]

theorem ofNat_cons_lt {first second : Nat} (hlt : first < second) (hfit : second < 256)
    (front back : List UInt8) : UInt8.ofNat first :: front < UInt8.ofNat second :: back := by
  rw [List.cons_lt_cons_iff, UInt8.ofNat_lt_iff_lt (Nat.lt_trans hlt hfit) hfit]
  exact .inl hlt

/-- Code points of one length compare like the bytes that they take. -/
private theorem encodeIn_append_lt {marker count code other : Nat} (hlt : code < other)
    (hfit : leading count other + marker < 256) (front back : List UInt8) :
    encodeIn marker count code ++ front < encodeIn marker count other ++ back := by
  induction count generalizing code other front back with
  | zero =>
    rw [leading] at hfit
    exact ofNat_cons_lt (by omega) hfit front back
  | succ count ih =>
    rw [encodeIn, encodeIn, List.append_assoc, List.append_assoc]
    rcases Nat.lt_or_ge (code / 64) (other / 64) with hleading | hleading
    · exact ih hleading hfit _ _
    · have heq : code / 64 = other / 64 := by omega
      rw [heq]
      exact List.append_left_lt (ofNat_cons_lt (by omega) (by omega) front back)

private theorem exists_encodeIn_eq_cons (marker count code : Nat) :
    ∃ rest, encodeIn marker count code = UInt8.ofNat (leading count code + marker) :: rest := by
  induction count generalizing code with
  | zero => exact ⟨[], rfl⟩
  | succ count ih =>
    obtain ⟨rest, hrest⟩ := ih (code / 64)
    refine ⟨rest ++ [UInt8.ofNat (code % 64 + 128)], ?_⟩
    rw [encodeIn, hrest, leading, List.cons_append]

/-- Code points of different lengths are told apart by their first bytes. -/
private theorem encodeIn_append_lt_of_first {marker count code marker' count' code' : Nat}
    (hlt : leading count code + marker < leading count' code' + marker')
    (hfit : leading count' code' + marker' < 256) (front back : List UInt8) :
    encodeIn marker count code ++ front < encodeIn marker' count' code' ++ back := by
  obtain ⟨rest, hrest⟩ := exists_encodeIn_eq_cons marker count code
  obtain ⟨rest', hrest'⟩ := exists_encodeIn_eq_cons marker' count' code'
  rw [hrest, hrest', List.cons_append, List.cons_append]
  exact ofNat_cons_lt hlt hfit _ _

/-- A smaller character is written in smaller bytes, whatever follows. -/
private theorem utf8EncodeChar_append_lt {c d : Char} (hlt : c < d) (front back : List UInt8) :
    String.utf8EncodeChar c ++ front < String.utf8EncodeChar d ++ back := by
  have hcode : c.toNat < d.toNat := hlt
  have hmax := toNat_lt d
  rw [utf8EncodeChar_eq, utf8EncodeChar_eq]
  split_ifs
  any_goals omega
  any_goals exact encodeIn_append_lt hcode (by simp only [leading]; omega) front back
  all_goals
    exact encodeIn_append_lt_of_first (by simp only [leading]; omega)
      (by simp only [leading]; omega) front back

/-- A text that comes first has the smaller bytes. -/
private theorem bytes_lt_bytes {left right : Text} (hlt : left < right) :
    bytes left < bytes right := by
  induction left generalizing right with
  | nil =>
    cases right with
    | nil => exact absurd hlt (List.not_lt_nil _)
    | cons d other =>
      obtain ⟨first, rest, hencode⟩ :=
        List.exists_cons_of_ne_nil (List.ne_nil_of_length_pos (l := String.utf8EncodeChar d) (by
          rw [String.length_utf8EncodeChar]
          exact d.utf8Size_pos))
      rw [bytes, bytes, List.flatMap_cons, hencode]
      exact List.nil_lt_cons _ _
  | cons c rest ih =>
    cases right with
    | nil => exact absurd hlt (List.not_lt_nil _)
    | cons d other =>
      rw [bytes, bytes, List.flatMap_cons, List.flatMap_cons]
      rcases List.cons_lt_cons_iff.mp hlt with hfirst | ⟨rfl, hrest⟩
      · exact utf8EncodeChar_append_lt hfirst _ _
      · exact List.append_left_lt (ih hrest)

theorem precedes_eq_true_iff {left right : Text} :
    precedes left right = true ↔ ¬ right < left := by
  induction left generalizing right with
  | nil => simp [precedes]
  | cons c rest ih =>
    cases right with
    | nil => simp [precedes]
    | cons d other =>
      rw [precedes, List.not_lt, List.cons_le_cons_iff, ← List.not_lt, ← ih]
      simp only [Bool.or_eq_true, Bool.and_eq_true, decide_eq_true_eq]
      rfl

private theorem precedes_trans (left middle right : Text) (hleft : precedes left middle = true)
    (hright : precedes middle right = true) : precedes left right = true := by
  rw [precedes_eq_true_iff, List.not_lt] at hleft hright ⊢
  exact List.le_trans hleft hright

private theorem precedes_total (left right : Text) :
    (precedes left right || precedes right left) = true := by
  rw [Bool.or_eq_true, precedes_eq_true_iff, precedes_eq_true_iff, List.not_lt, List.not_lt]
  exact List.le_total left right

/-- Of two different texts the one in front has the smaller bytes. -/
private theorem bytes_lt_bytes_of_precedes {left right : Text}
    (hprecedes : precedes left right = true)
    (hne : left ≠ right) : bytes left < bytes right := by
  rw [precedes_eq_true_iff, List.not_lt, List.le_iff_lt_or_eq] at hprecedes
  rcases hprecedes with hlt | heq
  · exact bytes_lt_bytes hlt
  · exact absurd heq hne

/-- Different keys are sorted into keys whose bytes strictly increase. -/
theorem pairwise_mergeSort {α : Type} {key : α → Text} {list : List α}
    (hdistinct : (list.map key).Nodup) :
    (list.mergeSort fun left right => precedes (key left) (key right)).Pairwise
      fun left right => bytes (key left) < bytes (key right) := by
  have hsorted : (list.mergeSort fun left right => precedes (key left) (key right)).Pairwise
      fun left right => precedes (key left) (key right) = true :=
    List.pairwise_mergeSort
      (fun left middle right => precedes_trans (key left) (key middle) (key right))
      (fun left right => precedes_total (key left) (key right)) list
  rw [← ((List.mergeSort_perm list _).map key).nodup_iff] at hdistinct
  refine hsorted.imp₂ ?_ (List.pairwise_map.mp hdistinct)
  intro left right hprecedes hne
  exact bytes_lt_bytes_of_precedes hprecedes hne

/-- Texts whose bytes in UTF-8 strictly increase. -/
def Increasing (texts : List Text) : Prop :=
  texts.Pairwise fun left right => bytes left < bytes right

end CheckPlan.Text
