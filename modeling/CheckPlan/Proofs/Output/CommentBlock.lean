import CheckPlan.Proofs.Output.Separation

namespace CheckPlan

/-- The text is a number of comment lines, an empty line, and nothing else. -/
def Text.IsCommentBlock (count : Nat) (text : Text) : Prop :=
  text.rawLines.length = count + 1 ∧ text.rawLines.getLast? = some ['\n'] ∧
    ∀ line ∈ text.rawLines.dropLast, line.head? = some '#'

instance (count : Nat) (text : Text) : Decidable (text.IsCommentBlock count) :=
  inferInstanceAs (Decidable (_ ∧ _ ∧ _))

namespace Header

/-- A comment has a line of its own for each line feed in it, besides the one
    with the hash mark. -/
private theorem count_flatMap_commentLine (comments : List Text) :
    (comments.flatMap commentLine).count '\n' = comments.length + comments.flatten.count '\n' := by
  induction comments with
  | nil => rfl
  | cons comment rest ih =>
    have hline : (commentLine comment).count '\n' = comment.count '\n' + 1 := by
      rw [commentLine, List.count_cons_of_ne (by decide), List.count_cons_of_ne (by decide),
        List.count_append, List.count_singleton_self]
    rw [List.flatMap_cons, List.count_append, hline, ih, List.length_cons, List.flatten_cons,
      List.count_append]
    omega

/-- A comment without line feeds is written as one line. -/
private theorem rawLines_flatMap_commentLine {comments : List Text}
    (hfree : ∀ comment ∈ comments, '\n' ∉ comment) :
    Text.rawLines (comments.flatMap commentLine) = comments.map commentLine := by
  rw [List.flatMap_def, Text.rawLines_flatten]
  · intro line hmem
    obtain ⟨comment, hcomment, rfl⟩ := List.mem_map.mp hmem
    have hmarked : '\n' ∉ '#' :: ' ' :: comment := by simpa using hfree comment hcomment
    exact Text.isLine_concat hmarked
  · rw [List.pairwise_map]
    exact List.pairwise_of_forall fun comment _ =>
      List.getLast?_concat (l := '#' :: ' ' :: comment)

section Render

variable (options : HeaderOptions) (generatedAt : Option Text)

theorem length_comments : (comments options generatedAt).length = 2 + options.notice.length := by
  rw [comments, List.length_cons, List.length_cons]
  omega

/-- The header has a line for each comment, the empty line, and one more for
    each line feed in a comment. -/
private theorem length_rawLines_render :
    (render options generatedAt).rawLines.length =
      2 + options.notice.length + (comments options generatedAt).flatten.count '\n' + 1 := by
  rw [render, Text.length_rawLines (Text.endsLine_concat _), List.count_append,
    count_flatMap_commentLine, length_comments, List.count_singleton_self]

private theorem rawLines_render_of_free
    (hfree : ∀ comment ∈ comments options generatedAt, '\n' ∉ comment) :
    (render options generatedAt).rawLines =
      (comments options generatedAt).map commentLine ++ [['\n']] := by
  rw [render, Text.rawLines_append (endsLine_flatMap_commentLine _),
    rawLines_flatMap_commentLine hfree]
  rfl

private theorem free_origin_iff (generator : Text) (time : Option Text) :
    '\n' ∉ origin generator time ↔ '\n' ∉ generator ∧ ∀ shown, time = some shown → '\n' ∉ shown := by
  have hby : '\n' ∉ "Generated by ".toList := by decide
  have hon : '\n' ∉ " on ".toList := by decide
  cases time with
  | none =>
    unfold origin
    rw [List.mem_append, or_iff_right hby]
    exact (and_iff_left fun shown hshown => nomatch hshown).symm
  | some shown =>
    unfold origin
    rw [List.mem_append, List.mem_append, List.mem_append, or_iff_right hby, or_iff_left hon,
      not_or]
    simp only [Option.some.injEq, forall_eq']

/-- The comments have no line feeds when what is configured and written has none. -/
private theorem forall_free_comments_iff :
    (∀ comment ∈ comments options generatedAt, '\n' ∉ comment) ↔
      '\n' ∉ options.generator ∧
        (options.timestamp = true → ∀ time, generatedAt = some time → '\n' ∉ time) ∧
        ∀ notice ∈ options.notice, '\n' ∉ notice := by
  have hwarning : '\n' ∉ warning := by decide
  have htime : (∀ time, (generatedAt.filter fun _ => options.timestamp) = some time → '\n' ∉ time) ↔
      (options.timestamp = true → ∀ time, generatedAt = some time → '\n' ∉ time) := by
    simp only [Option.filter_eq_some_iff]
    exact ⟨fun hfree hwanted time htime => hfree time ⟨htime, hwanted⟩,
      fun hfree time htime => hfree htime.2 time htime.1⟩
  rw [comments, List.forall_mem_cons, List.forall_mem_cons, free_origin_iff, htime, and_assoc,
    and_iff_right hwarning]

/-- The header is a line for each comment and an empty line exactly when there
    is no line feed in the generator, in the notices, and in the time if it is
    written. What stands behind a line feed is not a comment of the header. -/
theorem isCommentBlock_render_iff :
    (render options generatedAt).IsCommentBlock (2 + options.notice.length) ↔
      '\n' ∉ options.generator ∧
        (options.timestamp = true → ∀ time, generatedAt = some time → '\n' ∉ time) ∧
        ∀ notice ∈ options.notice, '\n' ∉ notice := by
  rw [← forall_free_comments_iff]
  constructor
  · rintro ⟨hlength, -, -⟩ comment hcomment hmem
    rw [length_rawLines_render] at hlength
    have hnone : (comments options generatedAt).flatten.count '\n' = 0 := by omega
    exact List.count_eq_zero.mp hnone (List.mem_flatten.mpr ⟨comment, hcomment, hmem⟩)
  · intro hfree
    have hlines := rawLines_render_of_free options generatedAt hfree
    refine ⟨?_, ?_, ?_⟩
    · rw [hlines, List.length_append, List.length_map, length_comments, List.length_singleton]
    · rw [hlines, List.getLast?_concat]
    · rw [hlines, List.dropLast_concat, List.forall_mem_map]
      exact fun _ _ => rfl

end Render

/-- A notice of two lines puts its second line into the output as it is. -/
theorem not_isCommentBlock_multiline_notice :
    ¬ ∀ (options : HeaderOptions) (generatedAt : Option Text),
      (render options generatedAt).IsCommentBlock (2 + options.notice.length) := by
  intro hblock
  exact absurd (hblock { notice := ["managed by ops\ncfg_dir=/tmp".toList] } none) (by decide)

end Header

end CheckPlan
