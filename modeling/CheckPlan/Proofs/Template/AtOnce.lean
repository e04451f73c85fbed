import CheckPlan.Proofs.Template.Filled

namespace CheckPlan

namespace Template

/-- Whether a digit can stand for an argument. Zero does not. -/
def IsIndex (digit : Char) : Prop :=
  '1' ≤ digit ∧ digit ≤ '9'

instance (digit : Char) : Decidable (IsIndex digit) :=
  inferInstanceAs (Decidable (_ ∧ _))

/-- The argument that a digit stands for. -/
def argument? (args : List Text) (digit : Char) : Option Text :=
  if IsIndex digit then args[digit.toNat - '1'.toNat]? else none

/-- One pass from left to right. A dollar sign and the digit of an argument are
    replaced by the argument, which is not looked at again, and all else is
    copied. -/
def fillAtOnce (args : List Text) : Text → Text
  | [] => []
  | '$' :: digit :: rest =>
    match argument? args digit with
    | some arg => arg ++ fillAtOnce args rest
    | none => '$' :: fillAtOnce args (digit :: rest)
  | c :: rest => c :: fillAtOnce args rest

/-- No argument holds a dollar sign, and none puts a digit behind a dollar sign of
    the text: there are no two dollar signs together, or every argument starts
    with something else than a digit. -/
structure Harmless (text : Text) (args : List Text) : Prop where
  no_sign : ∀ arg ∈ args, '$' ∉ arg
  apart : ¬ ['$', '$'] <:+: text ∨ ∀ arg ∈ args, ∃ c rest, arg = c :: rest ∧ c.isDigit = false

theorem Harmless.of_part {text part : Text} {args : List Text} (hharmless : Harmless text args)
    (hpart : part <:+: text) : Harmless part args where
  no_sign := hharmless.no_sign
  apart := hharmless.apart.imp_left fun hnot hboth => hnot (hboth.trans hpart)

theorem Harmless.of_suffix {text part : Text} {args : List Text} (hharmless : Harmless text args)
    (hpart : part <:+ text) : Harmless part args :=
  hharmless.of_part hpart.isInfix

theorem Harmless.of_subset {text : Text} {args fewer : List Text} (hharmless : Harmless text args)
    (hfewer : fewer ⊆ args) : Harmless text fewer where
  no_sign arg hmem := hharmless.no_sign arg (hfewer hmem)
  apart := hharmless.apart.imp_right fun hstart arg hmem => hstart arg (hfewer hmem)

section Argument

variable {args : List Text} {digit : Char}

theorem isIndex_iff_toNat : IsIndex digit ↔ 49 ≤ digit.toNat ∧ digit.toNat ≤ 57 :=
  Iff.rfl

theorem IsIndex.isDigit (hindex : IsIndex digit) : digit.isDigit = true :=
  Char.isDigit_iff_toNat.mpr ⟨Nat.le_of_succ_le (isIndex_iff_toNat.mp hindex).1, hindex.2⟩

theorem isIndex_digitChar {index : Nat} (hpos : 0 < index) (hsmall : index < 10) :
    IsIndex (Nat.digitChar index) := by
  rw [isIndex_iff_toNat, Nat.toNat_digitChar_of_lt_ten hsmall]
  omega

/-- The number of an argument starts with a digit that stands for one. -/
private theorem exists_toDigits_eq_cons {index : Nat} (hpos : 0 < index) :
    ∃ digit rest, Nat.toDigits 10 index = digit :: rest ∧ IsIndex digit := by
  induction index using Nat.strong_induction_on with
  | _ index ih =>
    by_cases hsmall : index < 10
    · exact ⟨_, _, Nat.toDigits_of_lt_base hsmall, isIndex_digitChar hpos hsmall⟩
    · obtain ⟨digit, rest, hdigits, hindex⟩ := ih (index / 10) (by omega) (by omega)
      refine ⟨digit, rest ++ [Nat.digitChar (index % 10)], ?_, hindex⟩
      rw [Nat.toDigits_of_base_le (by decide) (by omega), hdigits, List.cons_append]

private theorem argument?_sign (args : List Text) : argument? args '$' = none := by
  rw [argument?, if_neg (by decide)]

theorem argument?_congr {others : List Text} (hsame : others.take 9 = args.take 9)
    (digit : Char) : argument? others digit = argument? args digit := by
  unfold argument?
  split
  · next hindex =>
    have hplace : digit.toNat - 49 < 9 := by
      have hbounds := isIndex_iff_toNat.mp hindex
      omega
    exact (List.getElem?_take_of_lt hplace).symm.trans
      ((congrArg (·[_]?) hsame).trans (List.getElem?_take_of_lt hplace))
  · rfl

theorem mem_take_of_argument?_eq_some {arg : Text} (harg : argument? args digit = some arg) :
    arg ∈ args.take 9 := by
  have hsame : (args.take 9).take 9 = args.take 9 := by rw [List.take_take, Nat.min_self]
  rw [← argument?_congr hsame, argument?] at harg
  split at harg
  · exact List.mem_of_getElem? harg
  · cases harg

/-- When there are nine arguments, every index has one. -/
private theorem exists_argument? (hnine : 9 ≤ args.length) (hindex : IsIndex digit) :
    ∃ arg, argument? args digit = some arg := by
  have hplace : digit.toNat - 49 < args.length := by
    have hbounds := isIndex_iff_toNat.mp hindex
    omega
  exact ⟨_, (if_pos hindex).trans (List.getElem?_eq_getElem hplace)⟩

private theorem argument?_concat (hroom : args.length < 9) (arg : Text) (digit : Char) :
    argument? (args ++ [arg]) digit =
      (argument? args digit).or
        (if digit = Nat.digitChar (args.length + 1) then some arg else none) := by
  have hvalue : (Nat.digitChar (args.length + 1)).toNat = 48 + (args.length + 1) :=
    Nat.toNat_digitChar_of_lt_ten (by omega)
  have hone : '1'.toNat = 49 := rfl
  by_cases hlast : digit = Nat.digitChar (args.length + 1)
  · have hindex : IsIndex digit := hlast ▸ isIndex_digitChar args.length.succ_pos (by omega)
    have hplace : digit.toNat - '1'.toNat = args.length := by rw [hlast, hvalue]; omega
    rw [if_pos hlast, argument?, if_pos hindex, argument?, if_pos hindex, hplace,
      List.getElem?_concat_length, List.getElem?_eq_none le_rfl, Option.none_or]
  · rw [if_neg hlast, Option.or_none, argument?, argument?]
    split
    · next hindex =>
      have hbounds := isIndex_iff_toNat.mp hindex
      have hplace : digit.toNat - '1'.toNat ≠ args.length :=
        fun heq => hlast (Char.toNat_inj.mp (by omega))
      rcases Nat.lt_or_gt_of_ne hplace with hbefore | hbehind
      · rw [List.getElem?_append_left hbefore]
      · rw [List.getElem?_eq_none (by simp; omega), List.getElem?_eq_none (by omega)]
    · rfl

end Argument

section Pass

variable {args known : List Text} {text rest : Text}

theorem fillAtOnce_cons {c : Char} (hdollar : c ≠ '$') (args : List Text) (rest : Text) :
    fillAtOnce args (c :: rest) = c :: fillAtOnce args rest := by
  rw [fillAtOnce]
  rintro _ _ rfl
  exact absurd rfl hdollar

theorem fillAtOnce_of_argument?_eq_some {digit : Char} {arg : Text}
    (harg : argument? args digit = some arg) (rest : Text) :
    fillAtOnce args ('$' :: digit :: rest) = arg ++ fillAtOnce args rest := by
  rw [fillAtOnce, harg]

theorem fillAtOnce_of_argument?_eq_none {digit : Char} (harg : argument? args digit = none)
    (rest : Text) :
    fillAtOnce args ('$' :: digit :: rest) = '$' :: fillAtOnce args (digit :: rest) := by
  rw [fillAtOnce, harg]

theorem fillAtOnce_congr {others : List Text}
    (hsame : ∀ digit, argument? others digit = argument? args digit) (text : Text) :
    fillAtOnce others text = fillAtOnce args text := by
  fun_induction fillAtOnce args text with
  | case1 => rfl
  | case2 digit rest arg harg ih =>
    rw [fillAtOnce_of_argument?_eq_some ((hsame digit).trans harg), ih]
  | case3 digit rest harg ih =>
    rw [fillAtOnce_of_argument?_eq_none ((hsame digit).trans harg), ih]
  | case4 c rest hnot ih => rw [fillAtOnce, ih]; exact hnot

private theorem fillAtOnce_nil (text : Text) : fillAtOnce [] text = text := by
  fun_induction fillAtOnce [] text with
  | case1 => rfl
  | case2 digit rest arg harg ih =>
    cases mem_take_of_argument?_eq_some harg
  | case3 digit rest harg ih => rw [ih]
  | case4 c rest hnot ih => rw [ih]

/-- A dollar sign is no digit, so a placeholder does not reach over it. -/
private theorem fillAtOnce_append_sign (args : List Text) (front back : Text) :
    fillAtOnce args (front ++ '$' :: back) =
      fillAtOnce args front ++ fillAtOnce args ('$' :: back) := by
  fun_induction fillAtOnce args front with
  | case1 => rfl
  | case2 digit rest arg harg ih =>
    rw [List.cons_append, List.cons_append, fillAtOnce_of_argument?_eq_some harg, ih,
      List.append_assoc]
  | case3 digit rest harg ih =>
    rw [List.cons_append, List.cons_append, fillAtOnce_of_argument?_eq_none harg,
      ← List.cons_append, ih, List.cons_append]
  | case4 c rest hnot ih =>
    by_cases hdollar : c = '$'
    · cases rest with
      | nil =>
        rw [hdollar, List.singleton_append,
          fillAtOnce_of_argument?_eq_none (argument?_sign args)]
        rfl
      | cons digit rest => exact absurd rfl (hnot digit rest hdollar)
    · rw [List.cons_append, fillAtOnce_cons hdollar, ih, List.cons_append]

/-- A dollar sign is replaced together with the digit behind it, or it is copied. -/
private theorem fillAtOnce_sign_cases (args : List Text) (rest : Text) :
    (∃ digit more arg, rest = digit :: more ∧ argument? args digit = some arg ∧
      fillAtOnce args ('$' :: rest) = arg ++ fillAtOnce args more) ∨
    fillAtOnce args ('$' :: rest) = '$' :: fillAtOnce args rest := by
  cases rest with
  | nil => exact .inr rfl
  | cons digit more =>
    cases harg : argument? args digit with
    | none => exact .inr (fillAtOnce_of_argument?_eq_none harg more)
    | some arg =>
      exact .inl ⟨digit, more, arg, rfl, harg, fillAtOnce_of_argument?_eq_some harg more⟩

/-- What stands behind a dollar sign is a digit only if it was one before. -/
theorem head?_of_head?_fillAtOnce (hharmless : Harmless ('$' :: rest) (known.take 9))
    {digit : Char} (hdigit : digit.isDigit = true)
    (hhead : (fillAtOnce known rest).head? = some digit) : rest.head? = some digit := by
  cases rest with
  | nil => cases hhead
  | cons c rest =>
    by_cases hdollar : c = '$'
    · exfalso
      subst hdollar
      have hboth : ['$', '$'] <:+: '$' :: '$' :: rest := ⟨[], rest, rfl⟩
      have hstart := hharmless.apart.resolve_left fun hnot => hnot hboth
      rcases fillAtOnce_sign_cases known rest with ⟨next, more, arg, -, harg, hfill⟩ | hfill
      · obtain ⟨first, later, rfl, hfirst⟩ := hstart arg (mem_take_of_argument?_eq_some harg)
        rw [hfill, List.cons_append, List.head?_cons, Option.some.injEq] at hhead
        rw [hhead, hdigit] at hfirst
        cases hfirst
      · rw [hfill, List.head?_cons, Option.some.injEq] at hhead
        rw [← hhead] at hdigit
        cases hdigit
    · rwa [fillAtOnce_cons hdollar] at hhead

/-- A placeholder does not start in a text without dollar signs. -/
private theorem infix_of_infix_append_of_not_mem {front back more : Text} (hfront : '$' ∉ front)
    (hinside : ('$' :: more) <:+: front ++ back) : ('$' :: more) <:+: back := by
  induction front with
  | nil => exact hinside
  | cons c rest ih =>
    rw [List.mem_cons, not_or] at hfront
    rcases List.infix_cons_iff.mp hinside with hprefix | hinside
    · exact absurd (List.cons_prefix_cons.mp hprefix).1 hfront.1
    · exact ih hfront.2 hinside

/-- A dollar sign that was copied does not start a placeholder with an argument. -/
private theorem not_prefix_of_copied (hharmless : Harmless ('$' :: rest) (known.take 9))
    (hcopied : ∀ digit more, rest = digit :: more → argument? known digit = none)
    {digit : Char} (hdigit : digit.isDigit = true) {arg : Text}
    (harg : argument? known digit = some arg) :
    ¬ ['$', digit] <+: '$' :: fillAtOnce known rest := by
  intro hprefix
  obtain ⟨-, back, hback⟩ := List.cons_prefix_cons.mp hprefix
  have hhead : (fillAtOnce known rest).head? = some digit := by
    rw [← hback]
    rfl
  obtain ⟨more, hmore⟩ := List.head?_eq_some_iff.mp
    (head?_of_head?_fillAtOnce hharmless hdigit hhead)
  rw [hcopied digit more hmore] at harg
  cases harg

/-- No placeholder is left that has an argument. -/
private theorem not_infix_fillAtOnce (hharmless : Harmless text (known.take 9)) {digit : Char}
    (hdigit : digit.isDigit = true) {arg : Text} (harg : argument? known digit = some arg) :
    ¬ ['$', digit] <:+: fillAtOnce known text := by
  fun_induction fillAtOnce known text with
  | case1 => simp
  | case2 d rest found hfound ih =>
    intro hinside
    have hfree := hharmless.no_sign found (mem_take_of_argument?_eq_some hfound)
    exact ih (hharmless.of_suffix (List.suffix_append ['$', d] rest))
      (infix_of_infix_append_of_not_mem hfree hinside)
  | case3 d rest hnone ih =>
    intro hinside
    rcases List.infix_cons_iff.mp hinside with hprefix | hinside
    · refine not_prefix_of_copied hharmless ?_ hdigit harg hprefix
      rintro d' more ⟨⟩
      exact hnone
    · exact ih (hharmless.of_suffix (List.suffix_cons _ _)) hinside
  | case4 c rest hnot ih =>
    intro hinside
    rcases List.infix_cons_iff.mp hinside with hprefix | hinside
    · obtain rfl : '$' = c := (List.cons_prefix_cons.mp hprefix).1
      refine not_prefix_of_copied hharmless ?_ hdigit harg hprefix
      exact fun d more hrest => absurd hrest (hnot d more rfl)
    · exact ih (hharmless.of_suffix (List.suffix_cons _ _)) hinside

end Pass

section InTurn

variable {digits arg : Text} {text : Text} {known : List Text}

private theorem substitute_sign_cons (digit : Char) (rest : Text) :
    substitute [digit] arg ('$' :: digit :: rest) = arg ++ substitute [digit] arg rest := by
  rw [substitute, if_pos]
  · rfl
  · simp

private theorem substitute_sign {digit : Char} {rest : Text} (hhead : rest.head? ≠ some digit) :
    substitute [digit] arg ('$' :: rest) = '$' :: substitute [digit] arg rest := by
  rw [substitute, if_neg]
  rintro ⟨-, hprefix⟩
  rw [List.isPrefixOf_iff_prefix] at hprefix
  obtain ⟨back, rfl⟩ := hprefix
  exact hhead rfl

/-- The placeholders that were left for an argument are its own. -/
private theorem substitute_copied {digit : Char} {rest : Text}
    (hharmless : Harmless ('$' :: rest) (known.take 9)) (hdigit : digit.isDigit = true)
    (hgiven : ∀ d, argument? (known ++ [arg]) d =
      (argument? known d).or (if d = digit then some arg else none))
    (hcopied : ∀ d more, rest = d :: more → argument? known d = none)
    (hrest : substitute [digit] arg (fillAtOnce known rest) = fillAtOnce (known ++ [arg]) rest) :
    substitute [digit] arg ('$' :: fillAtOnce known rest) =
      fillAtOnce (known ++ [arg]) ('$' :: rest) := by
  have hleft (hhead : rest.head? ≠ some digit) :
      substitute [digit] arg ('$' :: fillAtOnce known rest) =
        '$' :: fillAtOnce (known ++ [arg]) rest := by
    rw [substitute_sign fun hfilled => hhead (head?_of_head?_fillAtOnce hharmless hdigit hfilled),
      hrest]
  cases rest with
  | nil => exact hleft nofun
  | cons d more =>
    have hboth := hgiven d
    rw [hcopied d more rfl, Option.none_or] at hboth
    by_cases hd : d = digit
    · have hsign : d ≠ '$' := by
        rintro rfl
        rw [← hd] at hdigit
        cases hdigit
      rw [fillAtOnce_cons hsign, substitute_cons hsign, fillAtOnce_cons hsign,
        List.cons_inj_right] at hrest
      rw [if_pos hd] at hboth
      rw [fillAtOnce_cons hsign, fillAtOnce_of_argument?_eq_some hboth, ← hrest, ← hd,
        substitute_sign_cons]
    · rw [if_neg hd] at hboth
      rw [hleft (by simpa using hd), fillAtOnce_of_argument?_eq_none hboth]

/-- One of the first nine arguments is filled in behind those before it as it is
    together with them. -/
private theorem substitute_fillAtOnce (hroom : known.length < 9)
    (hharmless : Harmless text (known.take 9)) (arg : Text) :
    substitute (Nat.toDigits 10 (known.length + 1)) arg (fillAtOnce known text) =
      fillAtOnce (known ++ [arg]) text := by
  rw [Nat.toDigits_of_lt_base (by omega)]
  have hgiven := argument?_concat hroom arg
  have hdigit : (Nat.digitChar (known.length + 1)).isDigit = true :=
    (isIndex_digitChar known.length.succ_pos (by omega)).isDigit
  generalize Nat.digitChar (known.length + 1) = digit at hdigit hgiven ⊢
  fun_induction fillAtOnce known text with
  | case1 => rw [substitute, fillAtOnce]
  | case2 d rest held hheld ih =>
    have hfree := hharmless.no_sign held (mem_take_of_argument?_eq_some hheld)
    have hboth : argument? (known ++ [arg]) d = some held := by rw [hgiven, hheld, Option.some_or]
    rw [substitute_append hfree, fillAtOnce_of_argument?_eq_some hboth,
      ih (hharmless.of_suffix (List.suffix_append ['$', d] rest))]
  | case3 d rest hnone ih =>
    refine substitute_copied hharmless hdigit hgiven ?_
      (ih (hharmless.of_suffix (List.suffix_cons _ _)))
    rintro _ _ ⟨⟩
    exact hnone
  | case4 c rest hnot ih =>
    have hrest := ih (hharmless.of_suffix (List.suffix_cons _ _))
    by_cases hdollar : c = '$'
    · subst hdollar
      exact substitute_copied hharmless hdigit hgiven
        (fun d more hmore => absurd hmore (hnot d more rfl)) hrest
    · rw [substitute_cons hdollar, fillAtOnce_cons hdollar, hrest]

/-- Of the arguments behind the ninth none is filled in. -/
private theorem substitute_fillAtOnce_of_nine (hnine : 9 ≤ known.length)
    (hharmless : Harmless text (known.take 9)) (arg : Text) :
    substitute (Nat.toDigits 10 (known.length + 1)) arg (fillAtOnce known text) =
      fillAtOnce known text := by
  obtain ⟨digit, rest, hdigits, hindex⟩ := exists_toDigits_eq_cons known.length.succ_pos
  obtain ⟨held, hheld⟩ := exists_argument? hnine hindex
  rw [hdigits]
  apply substitute_eq_self
  intro hinside
  have hshort : ['$', digit] <:+: '$' :: digit :: rest := ⟨[], rest, rfl⟩
  exact not_infix_fillAtOnce hharmless hindex.isDigit hheld (hshort.trans hinside)

/-- Arguments that are filled in behind others leave the text as one pass with all
    of them does. -/
private theorem fillFrom_fillAtOnce (hharmless : Harmless text ((known ++ args).take 9)) :
    fillFrom (known.length + 1) args (fillAtOnce known text) = fillAtOnce (known ++ args) text := by
  -- The arguments that are filled in already are `known`, which grows by one at a time.
  induction args generalizing known with
  | nil => rw [List.append_nil]; rfl
  | cons arg args ih =>
    have hsplit : known ++ arg :: args = (known ++ [arg]) ++ args := by simp
    have hknown : Harmless text (known.take 9) := by
      refine hharmless.of_subset ?_
      rw [List.take_append]
      exact List.subset_append_left _ _
    rw [hsplit] at hharmless
    have hrest := ih hharmless
    rw [List.length_append, List.length_singleton, ← hsplit] at hrest
    rw [fillFrom, ← hrest]
    congr 1
    by_cases hroom : known.length < 9
    · exact substitute_fillAtOnce hroom hknown arg
    · have hsame : (known ++ [arg]).take 9 = known.take 9 :=
        List.take_append_of_le_length (by omega)
      rw [substitute_fillAtOnce_of_nine (by omega) hknown,
        fillAtOnce_congr (argument?_congr hsame)]

/-- Only the first nine arguments have to be harmless. -/
theorem fill_eq_fillAtOnce_of_take (hharmless : Harmless text (args.take 9)) :
    fill text args = fillAtOnce args text := by
  have hfill := @fillFrom_fillAtOnce text [] args hharmless
  rwa [fillAtOnce_nil] at hfill

end InTurn

/-- Where no argument makes a placeholder, the arguments are filled in as one pass
    does it. What comes behind the ninth makes no difference then, whatever it
    holds, and a placeholder without an argument stays as it is. -/
theorem fill_eq_fillAtOnce {text : Text} {args : List Text} (hharmless : Harmless text args) :
    fill text args = fillAtOnce args text ∧
    (∀ others, others.take 9 = args.take 9 → fill text others = fill text args) ∧
    ∀ front digit back, text = front ++ '$' :: digit :: back → digit.isDigit = true →
      argument? args digit = none →
        fill text args = fill front args ++ '$' :: digit :: fill back args := by
  have hfirst := hharmless.of_subset (List.take_subset 9 args)
  refine ⟨fill_eq_fillAtOnce_of_take hfirst, fun others hsame => ?_,
    fun front digit back htext hdigit hnone => ?_⟩
  · rw [fill_eq_fillAtOnce_of_take hfirst, fill_eq_fillAtOnce_of_take (hsame ▸ hfirst),
      fillAtOnce_congr (argument?_congr hsame)]
  · subst htext
    have hfront := hfirst.of_part (List.prefix_append front ('$' :: digit :: back)).isInfix
    have hback : Harmless back (args.take 9) :=
      hfirst.of_suffix ⟨front ++ ['$', digit], by simp⟩
    have hsign : digit ≠ '$' := by
      rintro rfl
      cases hdigit
    rw [fill_eq_fillAtOnce_of_take hfirst, fill_eq_fillAtOnce_of_take hfront,
      fill_eq_fillAtOnce_of_take hback, fillAtOnce_append_sign,
      fillAtOnce_of_argument?_eq_none hnone, fillAtOnce_cons hsign]

/-- A dollar sign in front of a placeholder, a placeholder with two digits, and one
    that is none, with more arguments than are numbered by a digit. -/
theorem fill_eq_fillAtOnce_ten :
    let args : List Text := [['h'], ['a'], ['b'], ['c'], ['d'], ['e'], ['f'], ['g'], ['i'], ['k']]
    Harmless "$$1 $10 $0!".toList args ∧
      fill "$$1 $10 $0!".toList args = "$h h0 $0!".toList ∧
      fill "$$1 $10 $0!".toList (args.take 9 ++ [['$', '2']]) = "$h h0 $0!".toList ∧
      fill "$$1 $10 $0!".toList args =
        fill "$$1 $10 ".toList args ++ '$' :: '0' :: fill ['!'] args := by
  intro args
  have hharmless : Harmless "$$1 $10 $0!".toList args := by
    refine ⟨by decide, .inr fun arg hmem => ?_⟩
    obtain ⟨c, rfl, hc⟩ : ∃ c, [c] = arg ∧ c.isDigit = false := by
      revert arg
      simp [args]
    exact ⟨c, [], rfl, hc⟩
  obtain ⟨hfill, hothers, hleft⟩ := fill_eq_fillAtOnce hharmless
  refine ⟨hharmless, hfill, ?_, hleft "$$1 $10 ".toList '0' ['!'] rfl rfl rfl⟩
  exact (hothers (args.take 9 ++ [['$', '2']]) rfl).trans hfill

/-- A digit in front of an argument can make a placeholder for the next one. -/
example : fill "$$1".toList [['2'], ['x']] = ['x'] ∧
    fillAtOnce [['2'], ['x']] "$$1".toList = ['$', '2'] :=
  ⟨by cbv, rfl⟩

end Template

end CheckPlan
