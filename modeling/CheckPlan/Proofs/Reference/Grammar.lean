import CheckPlan.Proofs.Earlier
import CheckPlan.Proofs.Reference.Quoted
import Mathlib.Algebra.Group.Nat.Even

namespace CheckPlan

namespace Text

/-- Whether a text is cut at a character: it is a space, and an even number of
    quotes stands in front of it. -/
def CutsAt (before : Text) (c : Char) : Prop :=
  c = ' ' ∧ Even (before.count '"')

instance (before : Text) (c : Char) : Decidable (CutsAt before c) :=
  inferInstanceAs (Decidable (_ ∧ _))

/-- The chunks between the cuts of a text that stands behind another one. There is
    one more of them than there are cuts. -/
def chunksBehind (before text : Text) : List Text :=
  ((withEarlier before text).splitOnP fun (earlier, c) => decide (CutsAt earlier c)).map
    (·.map Prod.snd)

/-- The chunks of a text. -/
def chunks (text : Text) : List Text :=
  chunksBehind [] text

/-- The text without its quotes. -/
def unquoted (text : Text) : Text :=
  text.filter (· ≠ '"')

/-- The tokens that chunks stand for. A chunk of quotes only is an empty token. -/
def tokensOf (chunks : List Text) : List Text :=
  (chunks.filter (· ≠ [])).map unquoted

/-- The characters of a text that are neither quotes nor cut at, in order. -/
def kept (text : Text) : Text :=
  ((withEarlier [] text).filter fun (earlier, c) => c ≠ '"' ∧ ¬ CutsAt earlier c).map Prod.snd

section Chunks

variable {before : Text} {c : Char} {rest : Text}

private theorem chunksBehind_ne_nil (before text : Text) : chunksBehind before text ≠ [] := by
  simp [chunksBehind]

private theorem chunksBehind_cons_of_cut (hcut : CutsAt before c) :
    chunksBehind before (c :: rest) = [] :: chunksBehind (before ++ [c]) rest := by
  rw [chunksBehind, withEarlier, List.splitOnP_cons_eq_if_modifyHead, if_pos (by simpa using hcut)]
  rfl

private theorem chunksBehind_cons {chunk : Text} {more : List Text} (hcut : ¬ CutsAt before c)
    (hrest : chunksBehind (before ++ [c]) rest = chunk :: more) :
    chunksBehind before (c :: rest) = (c :: chunk) :: more := by
  rw [chunksBehind] at hrest ⊢
  obtain ⟨first, later, hfirst, rfl, rfl⟩ := List.map_eq_cons_iff.mp hrest
  rw [withEarlier, List.splitOnP_cons_eq_if_modifyHead, if_neg (by simpa using hcut), hfirst]
  rfl

private theorem not_cutsAt_of_ne (hspace : c ≠ ' ') : ¬ CutsAt before c :=
  fun hcut => hspace hcut.1

private theorem unquoted_cons_quote (rest : Text) : unquoted ('"' :: rest) = unquoted rest := rfl

private theorem unquoted_cons (hquote : c ≠ '"') (rest : Text) :
    unquoted (c :: rest) = c :: unquoted rest :=
  List.filter_cons_of_pos (by simpa using hquote)

theorem unquoted_append (front back : Text) :
    unquoted (front ++ back) = unquoted front ++ unquoted back :=
  List.filter_append front back

private theorem tokensOf_append (front back : List Text) :
    tokensOf (front ++ back) = tokensOf front ++ tokensOf back := by
  rw [tokensOf, List.filter_append, List.map_append, ← tokensOf, ← tokensOf]

private theorem tokensOf_singleton {chunk : Text} (hne : chunk ≠ []) :
    tokensOf [chunk] = [unquoted chunk] := by
  rw [tokensOf, List.filter_cons_of_pos (by simpa using hne)]
  rfl

end Chunks

end Text

namespace Token

/-- A place fits the text behind it: the scan is inside of quotes when their
    number is odd. -/
def Place.Fits (place : Place) (before : Text) : Prop :=
  place = .quoted ↔ ¬ Even (before.count '"')

section Fits

variable {place next : Place} {before : Text}

private theorem Place.Fits.quote (hfits : place.Fits before)
    (hnext : next = .quoted ↔ place ≠ .quoted) :
    next.Fits (before ++ ['"']) := by
  rw [Fits, hnext, List.count_append, List.count_singleton_self, Nat.even_add_one, not_not]
  exact not_iff_comm.mp hfits.symm

private theorem Place.Fits.other {c : Char} (hfits : place.Fits before) (hquote : c ≠ '"')
    (hnext : next = .quoted ↔ place = .quoted) : next.Fits (before ++ [c]) := by
  have hnone : [c].count '"' = 0 := List.count_eq_zero_of_not_mem (by simpa using hquote.symm)
  rw [Fits, hnext, List.count_append, hnone]
  exact hfits

/-- A text is cut at a space exactly when the scan is outside of quotes. -/
private theorem Place.Fits.cutsAt_space_iff (hfits : place.Fits before) :
    Text.CutsAt before ' ' ↔ place ≠ .quoted := by
  rw [Text.CutsAt, and_iff_right rfl]
  exact (not_iff_comm.mp hfits.symm).symm

end Fits

/-- What a scan makes of chunks. When a token is open, the first chunk is the rest
    of it, and it may be empty. -/
def Place.read (place : Place) (chunks : List Text) : Text × List Text :=
  match place with
  | .gap => ([], Text.tokensOf chunks)
  | .bare | .quoted => (Text.unquoted (chunks.headD []), Text.tokensOf chunks.tail)

/-- The scan reads the chunks of what it has in front of it. -/
private theorem scan_eq_read {place : Place} {before : Text} (hfits : place.Fits before)
    (text : Text) :
    scan place text = place.read (Text.chunksBehind before text) := by
  -- The place changes with each character, and the text behind it grows by that.
  induction text generalizing place before with
  | nil => cases place <;> rfl
  | cons c rest ih =>
    obtain ⟨chunk, more, hmore⟩ :=
      List.exists_cons_of_ne_nil (Text.chunksBehind_ne_nil (before ++ [c]) rest)
    have hread {next : Place} (hnext : next.Fits (before ++ [c])) :
        scan next rest = next.read (chunk :: more) := by
      rw [ih hnext, hmore]
    by_cases hquote : c = '"'
    · subst hquote
      rw [Text.chunksBehind_cons (Text.not_cutsAt_of_ne (by decide)) hmore]
      cases place with
      | quoted =>
        rw [scan, if_pos rfl, hread (hfits.quote (by decide))]
        rfl
      | bare =>
        rw [scan, if_pos rfl, hread (hfits.quote (by decide))]
        rfl
      | gap =>
        rw [scan, if_pos rfl, hread (hfits.quote (by decide))]
        rfl
    · by_cases hspace : c = ' '
      · subst hspace
        have hcut := hfits.cutsAt_space_iff
        cases place with
        | quoted =>
          rw [Text.chunksBehind_cons (by simp [hcut]) hmore, scan, if_neg hquote,
            hread (hfits.other hquote Iff.rfl)]
          rfl
        | bare =>
          rw [Text.chunksBehind_cons_of_cut (by simp [hcut]), hmore, scan, if_neg hquote,
            if_pos rfl, hread (hfits.other hquote (by decide))]
          rfl
        | gap =>
          rw [Text.chunksBehind_cons_of_cut (by simp [hcut]), hmore, scan, if_neg hquote,
            if_pos rfl, hread (hfits.other hquote (by decide))]
          rfl
      · have hkeep := Text.unquoted_cons hquote chunk
        rw [Text.chunksBehind_cons (Text.not_cutsAt_of_ne hspace) hmore]
        cases place with
        | quoted =>
          rw [scan, if_neg hquote, hread (hfits.other hquote Iff.rfl)]
          exact Prod.ext hkeep.symm rfl
        | bare =>
          rw [scan, if_neg hquote, if_neg hspace, hread (hfits.other hquote (by decide))]
          exact Prod.ext hkeep.symm rfl
        | gap =>
          rw [scan, if_neg hquote, if_neg hspace, hread (hfits.other hquote (by decide))]
          exact Prod.ext rfl (congrArg (· :: Text.tokensOf more) hkeep.symm)

/-- The token that is open starts with a dollar sign if only quotes stand in front
    of it. -/
private theorem head?_scan_iff {place : Place} (hopen : place ≠ .gap) (text : Text) :
    (scan place text).1.head? = some '$' ↔ (text.dropWhile (· = '"')).head? = some '$' := by
  induction text generalizing place with
  | nil => cases place <;> rfl
  | cons c rest ih =>
    by_cases hquote : c = '"'
    · rw [List.dropWhile_cons_of_pos (by simpa using hquote)]
      cases place with
      | gap => exact absurd rfl hopen
      | bare => rw [scan, if_pos hquote, ih (by decide)]
      | quoted => rw [scan, if_pos hquote, ih (by decide)]
    · rw [List.dropWhile_cons_of_neg (by simpa using hquote)]
      cases place with
      | gap => exact absurd rfl hopen
      | bare =>
        rw [scan, if_neg hquote]
        split
        · next hspace => simp [hspace]
        · rfl
      | quoted =>
        rw [scan, if_neg hquote]
        rfl

end Token

namespace Text

theorem tokens_eq (text : Text) : text.tokens = tokensOf text.chunks := by
  have hfits : Token.Place.gap.Fits [] := by simp [Token.Place.Fits]
  exact congrArg Prod.snd (Token.scan_eq_read hfits text)

example : chunks "  $x ab\"c d\"e \"\"".toList =
    [[], [], "$x".toList, "ab\"c d\"e".toList, "\"\"".toList] := by decide

private theorem exists_tokens_eq_cons_iff (text : Text) :
    (∃ token more, text.tokens = ('$' :: token) :: more) ↔
      ((text.dropWhile (· = ' ')).dropWhile (· = '"')).head? = some '$' := by
  have hhead (opened : Text) (later : List Text) :
      (∃ token more, opened :: later = ('$' :: token) :: more) ↔ opened.head? = some '$' := by
    simp [List.head?_eq_some_iff]
  induction text with
  | nil => simp [tokens, Token.scan]
  | cons c rest ih =>
    by_cases hspace : c = ' '
    · have hskip : tokens (c :: rest) = tokens rest := by
        rw [hspace]
        rfl
      rwa [hskip, List.dropWhile_cons_of_pos (by simpa using hspace)]
    · rw [List.dropWhile_cons_of_neg (by simpa using hspace)]
      by_cases hquote : c = '"'
      · rw [List.dropWhile_cons_of_pos (by simpa using hquote), tokens, Token.scan, if_pos hquote,
          hhead, Token.head?_scan_iff (by decide)]
      · rw [List.dropWhile_cons_of_neg (by simpa using hquote), tokens, Token.scan,
          if_neg hquote, if_neg hspace, hhead]
        rfl

private theorem exists_replicate_append_dropWhile (mark : Char) (text : Text) :
    ∃ count, text = List.replicate count mark ++ text.dropWhile (· = mark) := by
  have hmarks : ∀ c ∈ text.takeWhile (· = mark), c = mark :=
    fun c hmem => by simpa using List.mem_takeWhile_imp hmem
  refine ⟨(text.takeWhile (· = mark)).length, ?_⟩
  rw [← List.eq_replicate_of_mem hmarks, List.takeWhile_append_dropWhile]

private theorem dropWhile_replicate_append (mark : Char) (count : Nat) (rest : Text) :
    (List.replicate count mark ++ rest).dropWhile (· = mark) = rest.dropWhile (· = mark) :=
  List.dropWhile_append_of_pos fun _ hmem => decide_eq_true (List.eq_of_mem_replicate hmem)

/-- A dollar sign behind spaces and then quotes is what starts the first token. -/
private theorem head?_dropWhile_iff (text : Text) :
    ((text.dropWhile (· = ' ')).dropWhile (· = '"')).head? = some '$' ↔
      ∃ spaces quotes rest,
        text = List.replicate spaces ' ' ++ (List.replicate quotes '"' ++ '$' :: rest) := by
  constructor
  · intro hhead
    obtain ⟨rest, hrest⟩ := List.head?_eq_some_iff.mp hhead
    obtain ⟨spaces, hspaces⟩ := exists_replicate_append_dropWhile ' ' text
    obtain ⟨quotes, hquotes⟩ := exists_replicate_append_dropWhile '"' (text.dropWhile (· = ' '))
    rw [hrest] at hquotes
    exact ⟨spaces, quotes, rest, hspaces.trans (congrArg _ hquotes)⟩
  · rintro ⟨spaces, quotes, rest, rfl⟩
    have hstop : (List.replicate quotes '"' ++ '$' :: rest).dropWhile (· = ' ') =
        List.replicate quotes '"' ++ '$' :: rest := by
      cases quotes with
      | zero => rfl
      | succ more => rfl
    rw [dropWhile_replicate_append, hstop, dropWhile_replicate_append]
    rfl

private theorem flatten_splitOnP {α : Type} (p : α → Bool) (list : List α) :
    (list.splitOnP p).flatten = list.filter (!p ·) := by
  induction list with
  | nil => rfl
  | cons x xs ih =>
    obtain ⟨first, more, hmore⟩ := List.exists_cons_of_ne_nil (List.splitOnP_ne_nil p xs)
    rw [List.splitOnP_cons_eq_if_modifyHead]
    rw [hmore] at ih ⊢
    cases hx : p x with
    | true => simpa [hx] using ih
    | false => simpa [hx] using ih

private theorem flatten_tokensOf (chunks : List Text) :
    (tokensOf chunks).flatten = unquoted chunks.flatten := by
  induction chunks with
  | nil => rfl
  | cons chunk more ih =>
    rw [List.flatten_cons, unquoted_append, ← ih]
    cases chunk with
    | nil => rfl
    | cons c rest => rfl

/-- No character is lost or doubled, and none comes into the place of another. -/
theorem flatten_tokens (text : Text) : text.tokens.flatten = text.kept := by
  rw [tokens_eq, flatten_tokensOf, chunks, chunksBehind, ← List.map_flatten, flatten_splitOnP,
    unquoted, List.filter_map, List.filter_filter, kept]
  congr 2
  funext ⟨earlier, c⟩
  simp

/-- Where nothing is split off behind, the last part runs to the end. -/
private theorem exists_splitOnP_append {α : Type} {p : α → Bool} {back : List α}
    (hback : ∀ x ∈ back, p x = false) (front : List α) :
    ∃ parts last, (front ++ back).splitOnP p = parts ++ [last ++ back] := by
  induction front with
  | nil => exact ⟨[], [], List.splitOnP_eq_singleton hback⟩
  | cons x xs ih =>
    obtain ⟨parts, last, hsplit⟩ := ih
    rw [List.cons_append, List.splitOnP_cons_eq_if_modifyHead, hsplit]
    split
    · exact ⟨[] :: parts, last, rfl⟩
    · cases parts with
      | nil => exact ⟨[], x :: last, rfl⟩
      | cons first more => exact ⟨(x :: first) :: more, last, rfl⟩

/-- A quote that is not closed keeps its token open to the end. -/
theorem tokens_of_unterminated {front back : Text} (heven : Even (front.count '"'))
    (hback : '"' ∉ back) :
    ∃ earlier opened, tokens (front ++ '"' :: back) = earlier ++ [opened ++ back] := by
  have huncut : ∀ place ∈ withEarlier front ('"' :: back),
      decide (CutsAt place.1 place.2) = false := by
    rintro ⟨before, c⟩ hmem
    obtain ⟨passed, rest, hsplit, rfl⟩ := mem_withEarlier_iff.mp hmem
    apply decide_eq_false
    rintro ⟨rfl, hcut⟩
    cases passed with
    | nil => cases hsplit
    | cons first passed =>
      rw [List.cons_append, List.cons.injEq] at hsplit
      obtain ⟨rfl, rfl⟩ := hsplit
      have hpassed : passed.count '"' = 0 :=
        List.count_eq_zero_of_not_mem fun hquote => hback (List.mem_append_left _ hquote)
      rw [List.count_append, List.count_cons_self, hpassed, Nat.even_add_one] at hcut
      exact hcut heven
  obtain ⟨parts, last, hsplit⟩ := exists_splitOnP_append huncut (withEarlier [] front)
  have hkeep : unquoted back = back :=
    List.filter_eq_self.mpr fun c hmem => decide_eq_true fun heq => hback (heq ▸ hmem)
  have hchunks : (front ++ '"' :: back).chunks =
      parts.map (·.map Prod.snd) ++ [last.map Prod.snd ++ '"' :: back] := by
    rw [chunks, chunksBehind, withEarlier_append, List.nil_append, hsplit, List.map_append,
      List.map_singleton, List.map_append, map_snd_withEarlier]
  refine ⟨tokensOf (parts.map (·.map Prod.snd)), unquoted (last.map Prod.snd), ?_⟩
  rw [tokens_eq, hchunks, tokensOf_append, tokensOf_singleton (by simp), unquoted_append,
    unquoted_cons_quote, hkeep]

end Text

namespace Reference

/-- What the grammar says of the tokens of a text, and of the reference that they
    are. -/
structure ReadByGrammar (text : Text) : Prop where
  tokens : text.tokens = Text.tokensOf text.chunks
  kept : text.tokens.flatten = text.kept
  unterminated : ∀ front back, text = front ++ '"' :: back → Even (front.count '"') →
    '"' ∉ back → ∃ earlier opened, text.tokens = earlier ++ [opened ++ back]
  accepted_iff : (∃ reference, parse text = .ok reference) ↔
    ∃ spaces quotes rest,
      text = List.replicate spaces ' ' ++ (List.replicate quotes '"' ++ '$' :: rest)
  accepted : ∀ reference, parse text = .ok reference →
    text.tokens = ('$' :: reference.check) :: reference.args
  refused : ∀ invalid, parse text = .error invalid → invalid.reference = text

private theorem exists_parse_eq_ok_iff (text : Text) :
    (∃ reference, parse text = .ok reference) ↔
      ∃ check args, text.tokens = ('$' :: check) :: args := by
  simp only [parse_eq_ok_iff]
  exact ⟨fun ⟨reference, htokens⟩ => ⟨reference.check, reference.args, htokens⟩,
    fun ⟨check, args, htokens⟩ => ⟨⟨check, args⟩, htokens⟩⟩

/-- Every text is read by the grammar, well formed or not. -/
theorem readByGrammar (text : Text) : ReadByGrammar text where
  tokens := text.tokens_eq
  kept := text.flatten_tokens
  unterminated := by
    rintro front back rfl heven hback
    exact Text.tokens_of_unterminated heven hback
  accepted_iff := by
    rw [exists_parse_eq_ok_iff, Text.exists_tokens_eq_cons_iff, Text.head?_dropWhile_iff]
  accepted _ hparse := parse_eq_ok_iff.mp hparse
  refused _ hparse := eq_of_parse_eq_error hparse

end Reference

end CheckPlan
