import CheckPlan.Proofs.Text.Segments
import CheckPlan.Reference.Basic

namespace CheckPlan

namespace Token

/-- A token that is read from a text holds characters of the text, and no
    quote. -/
def From (text token : Text) : Prop :=
  '"' ∉ token ∧ token ⊆ text

private theorem from_nil (text : Text) : From text [] :=
  ⟨List.not_mem_nil, List.nil_subset text⟩

private theorem From.skip {text token : Text} (hfrom : From text token) (c : Char) :
    From (c :: text) token :=
  ⟨hfrom.1, fun _ hmem => List.mem_cons_of_mem c (hfrom.2 hmem)⟩

private theorem From.take {text token : Text} (hfrom : From text token) {c : Char} (hc : c ≠ '"') :
    From (c :: text) (c :: token) := by
  refine ⟨?_, List.cons_subset_cons c hfrom.2⟩
  rw [List.mem_cons, not_or]
  exact ⟨fun heq => hc heq.symm, hfrom.1⟩

/-- Wherever a scan starts, the open token and those after it are read from
    the text. -/
private theorem from_scan (place : Place) (text : Text) :
    From text (scan place text).1 ∧ ∀ token ∈ (scan place text).2, From text token := by
  induction text generalizing place with
  | nil =>
    have hnil : scan place [] = ([], []) := by cases place <;> rfl
    rw [hnil]
    exact ⟨from_nil [], fun token hmem => absurd hmem List.not_mem_nil⟩
  | cons c rest ih =>
    have hskip (place : Place) : ∀ token ∈ (scan place rest).2, From (c :: rest) token :=
      fun token hmem => ((ih place).2 token hmem).skip c
    cases place with
    | quoted =>
      rw [scan]
      by_cases hquote : c = '"'
      · rw [if_pos hquote]
        exact ⟨(ih .bare).1.skip c, hskip .bare⟩
      · rw [if_neg hquote]
        exact ⟨(ih .quoted).1.take hquote, hskip .quoted⟩
    | bare =>
      rw [scan]
      by_cases hquote : c = '"'
      · rw [if_pos hquote]
        exact ⟨(ih .quoted).1.skip c, hskip .quoted⟩
      · rw [if_neg hquote]
        by_cases hspace : c = ' '
        · rw [if_pos hspace]
          exact ⟨from_nil _, hskip .gap⟩
        · rw [if_neg hspace]
          exact ⟨(ih .bare).1.take hquote, hskip .bare⟩
    | gap =>
      rw [scan]
      by_cases hquote : c = '"'
      · rw [if_pos hquote]
        exact ⟨from_nil _, List.forall_mem_cons.mpr ⟨(ih .quoted).1.skip c, hskip .quoted⟩⟩
      · rw [if_neg hquote]
        by_cases hspace : c = ' '
        · rw [if_pos hspace]
          exact ⟨from_nil _, hskip .gap⟩
        · rw [if_neg hspace]
          exact ⟨from_nil _, List.forall_mem_cons.mpr ⟨(ih .bare).1.take hquote, hskip .bare⟩⟩

theorem from_of_mem_tokens {text token : Text} (hmem : token ∈ text.tokens) : From text token :=
  (from_scan .gap text).2 token hmem

/-- The token in quotes. -/
def quote (token : Text) : Text :=
  '"' :: token ++ ['"']

private theorem scan_quoted_append {token : Text} (hfree : '"' ∉ token) (rest : Text) :
    scan .quoted (token ++ '"' :: rest) =
      (token ++ (scan .bare rest).1, (scan .bare rest).2) := by
  induction token with
  | nil => simp [scan]
  | cons c more ih =>
    rw [List.mem_cons, not_or] at hfree
    have hc : ¬ c = '"' := fun heq => hfree.1 heq.symm
    rw [List.cons_append, scan, if_neg hc, ih hfree.2]
    rfl

/-- A token in quotes opens at its first quote, and goes on behind its last. -/
theorem scan_gap_quote {token : Text} (hfree : '"' ∉ token) (rest : Text) :
    scan .gap (quote token ++ rest) =
      ([], (token ++ (scan .bare rest).1) :: (scan .bare rest).2) := by
  have hquote : quote token ++ rest = '"' :: (token ++ '"' :: rest) := by simp [quote]
  rw [hquote, scan, if_pos rfl, scan_quoted_append hfree]

private theorem tokens_intercalate_quote {tokens : List Text}
    (hfree : ∀ token ∈ tokens, '"' ∉ token) :
    Text.tokens ([' '].intercalate (tokens.map quote)) = tokens := by
  induction tokens with
  | nil => rfl
  | cons token more ih =>
    obtain ⟨htoken, hmore⟩ := List.forall_mem_cons.mp hfree
    have hrest := ih hmore
    unfold Text.tokens at hrest ⊢
    cases more with
    | nil =>
      have hscan := scan_gap_quote htoken []
      rw [List.append_nil] at hscan
      rw [List.map_singleton, List.intercalate_singleton, hscan]
      simp [scan]
    | cons next last =>
      rw [List.map_cons, List.intercalate_cons_of_ne_nil (by simp), List.append_assoc,
        scan_gap_quote htoken, List.singleton_append, scan, if_neg (by decide), if_pos rfl, hrest,
        List.append_nil]

private theorem getLast?_intercalate_quote {tokens : List Text} (hne : tokens ≠ []) :
    ([' '].intercalate (tokens.map quote)).getLast? = some '"' := by
  induction tokens with
  | nil => exact absurd rfl hne
  | cons token more ih =>
    cases more with
    | nil =>
      rw [List.map_singleton, List.intercalate_singleton, quote, List.getLast?_append]
      rfl
    | cons next last =>
      rw [List.map_cons, List.intercalate_cons_of_ne_nil (by simp), List.getLast?_append,
        ih (List.cons_ne_nil _ _)]
      rfl

end Token

namespace Reference

/-- The tokens of a reference: its check behind a dollar sign, and its
    arguments. -/
def tokens (reference : Reference) : List Text :=
  ('$' :: reference.check) :: reference.args

/-- A text is read as a reference exactly when it has the reference's tokens. -/
theorem parse_eq_ok_iff {text : Text} {reference : Reference} :
    parse text = .ok reference ↔ text.tokens = reference.tokens := by
  unfold parse
  split
  · next check args htokens =>
    rw [htokens, tokens, Except.ok.injEq]
    constructor
    · rintro rfl
      rfl
    · intro heq
      cases heq
      rfl
  · next hnot =>
    simp only [reduceCtorEq, false_iff]
    exact hnot reference.check reference.args

/-- The reference with every token in quotes. -/
def quoted (reference : Reference) : Text :=
  [' '].intercalate (reference.tokens.map Token.quote)

private theorem parse_quoted {reference : Reference}
    (hfree : ∀ token ∈ reference.tokens, '"' ∉ token) :
    parse reference.quoted = .ok reference :=
  parse_eq_ok_iff.mpr (Token.tokens_intercalate_quote hfree)

theorem head?_quoted (reference : Reference) : reference.quoted.head? = some '"' := by
  unfold quoted tokens
  cases reference.args with
  | nil => rfl
  | cons arg more => rfl

private theorem getLast?_quoted (reference : Reference) : reference.quoted.getLast? = some '"' :=
  Token.getLast?_intercalate_quote (List.cons_ne_nil _ _)

/-- Quotes are not blank, so nothing is trimmed off. -/
private theorem trim_quoted (reference : Reference) :
    Text.trim reference.quoted = reference.quoted := by
  apply Text.trim_eq_self
  · intro c hc
    rw [head?_quoted, Option.some.injEq] at hc
    exact hc ▸ rfl
  · intro c hc
    rw [getLast?_quoted, Option.some.injEq] at hc
    exact hc ▸ rfl

/-- A character that is neither a quote nor a space comes from a token. -/
private theorem not_mem_quoted {reference : Reference} {c : Char} (hquote : c ≠ '"')
    (hspace : c ≠ ' ')
    (hfree : ∀ token ∈ reference.tokens, c ∉ token) : c ∉ reference.quoted := by
  intro hmem
  rcases Text.of_mem_intercalate hmem with hmem | ⟨part, hpart, hmem⟩
  · exact hspace (List.mem_singleton.mp hmem)
  · obtain ⟨token, htoken, rfl⟩ := List.mem_map.mp hpart
    have hc : c ∉ Token.quote token := by
      simp [Token.quote, hquote, hfree token htoken]
    exact hc hmem

/-- No token of the reference holds a quote, a comma or a line feed. -/
def Plain (reference : Reference) : Prop :=
  ∀ token ∈ reference.tokens, '"' ∉ token ∧ ',' ∉ token ∧ '\n' ∉ token

theorem plain_of_parse_eq_ok {segment : Text} {reference : Reference} (hcomma : ',' ∉ segment)
    (hfeed : '\n' ∉ segment) (hparse : parse segment = .ok reference) : reference.Plain := by
  intro token hmem
  rw [← parse_eq_ok_iff.mp hparse] at hmem
  obtain ⟨hquote, hsubset⟩ := Token.from_of_mem_tokens hmem
  exact ⟨hquote, fun hc => hcomma (hsubset hc), fun hc => hfeed (hsubset hc)⟩

theorem Plain.parse_quoted {reference : Reference} (hplain : reference.Plain) :
    parse reference.quoted = .ok reference :=
  Reference.parse_quoted fun token hmem => (hplain token hmem).1

theorem Plain.isSegment_quoted {reference : Reference} (hplain : reference.Plain) :
    reference.quoted.IsSegment where
  ne_nil := by
    intro hnil
    have hhead := head?_quoted reference
    rw [hnil] at hhead
    cases hhead
  no_comma := not_mem_quoted (by decide) (by decide) fun token hmem => (hplain token hmem).2.1
  no_feed := not_mem_quoted (by decide) (by decide) fun token hmem => (hplain token hmem).2.2
  trimmed := trim_quoted reference

theorem parse_at (name : Text) : parse ('@' :: name) = .error ⟨'@' :: name⟩ := rfl

theorem parse_nil : parse [] = .error ⟨[]⟩ := rfl

end Reference

end CheckPlan
