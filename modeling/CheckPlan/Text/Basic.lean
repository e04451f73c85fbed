namespace CheckPlan

/-- Text that is read or written, as its characters in order. Places in it are
    counts of UTF-8 bytes, and good only where a character starts or the text
    ends. -/
abbrev Text := List Char

namespace Text

/-- The text as a string, for messages and reports. -/
abbrev string (text : Text) : String :=
  String.ofList text

/-- The number of bytes that the text takes in UTF-8. Offsets and spans count
    these bytes. -/
def byteLength : Text → Nat
  | [] => 0
  | c :: rest => c.utf8Size + byteLength rest

@[simp] theorem byteLength_nil : byteLength [] = 0 := rfl

@[simp] theorem byteLength_cons (c : Char) (rest : Text) :
    byteLength (c :: rest) = c.utf8Size + byteLength rest := rfl

@[simp] theorem byteLength_append (front back : Text) :
    byteLength (front ++ back) = byteLength front + byteLength back := by
  induction front with
  | nil => simp
  | cons c rest ih => simp [ih, Nat.add_assoc]

/-- What follows the first `count` bytes, if a character starts there or the
    text ends there. -/
def dropBytes? : Nat → Text → Option Text
  | 0, text => some text
  | _ + 1, [] => none
  | count + 1, c :: rest =>
    if c.utf8Size ≤ count + 1 then dropBytes? (count + 1 - c.utf8Size) rest else none

/-- The first `count` bytes, if they end where a character ends. -/
def takeBytes? : Nat → Text → Option Text
  | 0, _ => some []
  | _ + 1, [] => none
  | count + 1, c :: rest =>
    if c.utf8Size ≤ count + 1 then
      (takeBytes? (count + 1 - c.utf8Size) rest).map (c :: ·)
    else none

theorem dropBytes?_append (front back : Text) :
    dropBytes? (byteLength front) (front ++ back) = some back := by
  induction front with
  | nil => simp [dropBytes?]
  | cons c rest ih =>
    obtain ⟨size, hsize⟩ := Nat.exists_eq_succ_of_ne_zero (Nat.ne_of_gt c.utf8Size_pos)
    have hcount : byteLength (c :: rest) = (size + byteLength rest) + 1 := by
      simp only [byteLength_cons]; omega
    rw [hcount, List.cons_append, dropBytes?]
    have hrest : size + byteLength rest + 1 - c.utf8Size = byteLength rest := by omega
    rw [if_pos (by omega), hrest, ih]

theorem takeBytes?_append (front back : Text) :
    takeBytes? (byteLength front) (front ++ back) = some front := by
  induction front with
  | nil => simp [takeBytes?]
  | cons c rest ih =>
    obtain ⟨size, hsize⟩ := Nat.exists_eq_succ_of_ne_zero (Nat.ne_of_gt c.utf8Size_pos)
    have hcount : byteLength (c :: rest) = (size + byteLength rest) + 1 := by
      simp only [byteLength_cons]; omega
    rw [hcount, List.cons_append, takeBytes?]
    have hrest : size + byteLength rest + 1 - c.utf8Size = byteLength rest := by omega
    rw [if_pos (by omega), hrest, ih, Option.map_some]

/-- Whether a text comes before another one or is equal to it. The first
    difference decides by code point, which is also the order of the UTF-8
    bytes. -/
def precedes : Text → Text → Bool
  | [], _ => true
  | _ :: _, [] => false
  | c :: rest, d :: other => c.toNat < d.toNat || (c = d && precedes rest other)

end Text

end CheckPlan
