import CheckPlan.Proofs.Reference.Quoted

namespace CheckPlan

namespace Token

/-- A way to write a token: in quotes, or bare if it is not empty and has no
    space. -/
inductive Spelling (token : Text)
  | quoted
  | bare (hne : token ≠ []) (hspace : ' ' ∉ token)

/-- The token as it is written. -/
def Spelling.text {token : Text} : Spelling token → Text
  | .quoted => quote token
  | .bare _ _ => token

/-- Ways to write tokens one after the other, each behind a space and any number
    of further ones. -/
inductive Spellings : List Text → Type
  | nil : Spellings []
  | cons {token : Text} {rest : List Text} (further : Nat) (first : Spelling token)
      (more : Spellings rest) : Spellings (token :: rest)

/-- The tokens as they are written. -/
def Spellings.text : {tokens : List Text} → Spellings tokens → Text
  | _, .nil => []
  | _, .cons further first more =>
    List.replicate (further + 1) ' ' ++ (first.text ++ more.text)

/-- All tokens in quotes, with one space in front of each. -/
def Spellings.quoted : (tokens : List Text) → Spellings tokens
  | [] => .nil
  | _ :: rest => .cons 0 .quoted (quoted rest)

private theorem scan_bare_append {token : Text} (hfree : '"' ∉ token) (hspace : ' ' ∉ token)
    (rest : Text) :
    scan .bare (token ++ rest) = (token ++ (scan .bare rest).1, (scan .bare rest).2) := by
  induction token with
  | nil => rfl
  | cons c more ih =>
    rw [List.mem_cons, not_or] at hfree hspace
    have hquote : ¬ c = '"' := fun heq => hfree.1 heq.symm
    have hblank : ¬ c = ' ' := fun heq => hspace.1 heq.symm
    rw [List.cons_append, scan, if_neg hquote, if_neg hblank, ih hfree.2 hspace.2]
    rfl

/-- However a token is written, it opens at its first character, and goes on
    behind its last. -/
theorem scan_gap_text {token : Text} (hfree : '"' ∉ token) (spelling : Spelling token)
    (rest : Text) :
    scan .gap (spelling.text ++ rest) =
      ([], (token ++ (scan .bare rest).1) :: (scan .bare rest).2) := by
  cases spelling with
  | quoted => exact scan_gap_quote hfree rest
  | bare hne hspace =>
    obtain ⟨c, more, rfl⟩ := List.exists_cons_of_ne_nil hne
    rw [List.mem_cons, not_or] at hfree hspace
    have hquote : ¬ c = '"' := fun heq => hfree.1 heq.symm
    have hblank : ¬ c = ' ' := fun heq => hspace.1 heq.symm
    rw [Spelling.text, List.cons_append, scan, if_neg hquote, if_neg hblank,
      scan_bare_append hfree.2 hspace.2]
    rfl

private theorem scan_gap_spaces (count : Nat) (rest : Text) :
    (scan .gap (List.replicate count ' ' ++ rest)).2 = (scan .gap rest).2 := by
  induction count with
  | zero => rfl
  | succ count ih =>
    rw [List.replicate_succ, List.cons_append, scan, if_neg (by decide), if_pos rfl]
    exact ih

/-- Tokens behind an open one end it and are read as they are. -/
private theorem scan_bare_text {tokens : List Text} (spellings : Spellings tokens)
    (hfree : ∀ token ∈ tokens, '"' ∉ token) : scan .bare spellings.text = ([], tokens) := by
  induction spellings with
  | nil => rfl
  | cons further first more ih =>
    obtain ⟨hfirst, hmore⟩ := List.forall_mem_cons.mp hfree
    rw [Spellings.text, List.replicate_succ, List.cons_append, scan, if_neg (by decide),
      if_pos rfl, scan_gap_spaces, scan_gap_text hfirst, ih hmore, List.append_nil]

end Token

namespace Reference

/-- A way to write a reference: its check behind a dollar sign, and then its
    arguments. -/
structure Spelling (reference : Reference) where
  check : Token.Spelling ('$' :: reference.check)
  args : Token.Spellings reference.args

/-- The reference as it is written. -/
def Spelling.text {reference : Reference} (spelling : reference.Spelling) : Text :=
  spelling.check.text ++ spelling.args.text

instance (reference : Reference) : Inhabited reference.Spelling :=
  ⟨⟨.quoted, Token.Spellings.quoted reference.args⟩⟩

/-- Neither the check nor an argument holds a quote. -/
def QuoteFree (reference : Reference) : Prop :=
  '"' ∉ reference.check ∧ ∀ arg ∈ reference.args, '"' ∉ arg

theorem quoteFree_iff {reference : Reference} :
    reference.QuoteFree ↔ ∀ token ∈ reference.tokens, '"' ∉ token := by
  have hsign : '"' ≠ '$' := by decide
  rw [tokens, List.forall_mem_cons, List.mem_cons, not_or, and_iff_right hsign, QuoteFree]

private theorem quoteFree_of_parse_eq_ok {text : Text} {reference : Reference}
    (hparse : parse text = .ok reference) : reference.QuoteFree := by
  rw [quoteFree_iff, ← parse_eq_ok_iff.mp hparse]
  exact fun token hmem => (Token.from_of_mem_tokens hmem).1

private theorem QuoteFree.parse_text {reference : Reference} (hfree : reference.QuoteFree)
    (spelling : reference.Spelling) : parse spelling.text = .ok reference := by
  obtain ⟨hcheck, hargs⟩ := List.forall_mem_cons.mp (quoteFree_iff.mp hfree)
  rw [parse_eq_ok_iff, Text.tokens, Spelling.text, Token.scan_gap_text hcheck,
    Token.scan_bare_text spelling.args hargs, List.append_nil, tokens]

/-- A reference without quotes is read back from all its spellings, and no other
    reference is read from any text. So what was read once is read again, however
    it is written. -/
theorem quoteFree_iff_read_back (reference : Reference) :
    (reference.QuoteFree ↔ ∀ spelling : reference.Spelling, parse spelling.text = .ok reference) ∧
      (reference.QuoteFree ↔ ∃ text, parse text = .ok reference) := by
  have hread : (∃ text, parse text = .ok reference) → reference.QuoteFree :=
    fun ⟨_, hparse⟩ => quoteFree_of_parse_eq_ok hparse
  refine ⟨⟨QuoteFree.parse_text, fun hall => ?_⟩, fun hfree => ?_, hread⟩
  · exact hread ⟨_, hall default⟩
  · exact ⟨_, hfree.parse_text default⟩

/-- A name with a space, an empty argument, and arguments that stand bare. -/
example :
    let reference : Reference := ⟨"a b".toList, [[], "$1,@".toList, " c ".toList]⟩
    let spelling : reference.Spelling :=
      ⟨.quoted, .cons 1 .quoted (.cons 0 (.bare (by decide) (by decide)) (.cons 2 .quoted .nil))⟩
    spelling.text = "\"$a b\"  \"\" $1,@   \" c \"".toList := rfl

end Reference

end CheckPlan
