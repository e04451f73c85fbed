import CheckPlan.Proofs.Catalog.Grouped
import CheckPlan.Proofs.Catalog.Registered
import CheckPlan.Proofs.Output.LineFeeds

namespace CheckPlan

namespace Text

/-- The text ends with an empty line. -/
def EndsBlank (text : Text) : Prop :=
  ['\n', '\n'] <:+ text

instance (text : Text) : Decidable text.EndsBlank :=
  inferInstanceAs (Decidable (_ <:+ _))

theorem endsBlank_concat_iff {text : Text} :
    (text ++ ['\n']).EndsBlank ↔ text.getLast? = some '\n' := by
  rw [List.getLast?_eq_some_iff]
  constructor
  · rintro ⟨front, hfront⟩
    have hboth : front ++ ['\n'] ++ ['\n'] = text ++ ['\n'] := by
      rw [← hfront, List.append_assoc, List.singleton_append]
    exact ⟨front, (List.append_cancel_right hboth).symm⟩
  · rintro ⟨front, rfl⟩
    exact ⟨front, by rw [List.append_assoc, List.singleton_append]⟩

/-- Behind a line, a text and a line feed make an empty line exactly when the
    text ends a line itself. -/
private theorem endsBlank_append_concat_iff {front text : Text}
    (hfront : front.getLast? = some '\n') :
    (front ++ (text ++ ['\n'])).EndsBlank ↔ text.EndsLine := by
  rw [← List.append_assoc, endsBlank_concat_iff, endsLine_iff]
  by_cases htext : text = []
  · simp [htext, hfront]
  · rw [List.getLast?_append_of_ne_nil _ htext, or_iff_right htext]

end Text

namespace Header

theorem endsLine_flatMap_commentLine (comments : List Text) :
    Text.EndsLine (comments.flatMap commentLine) := by
  apply Text.endsLine_flatMap
  intro comment _
  exact Text.endsLine_concat ('#' :: ' ' :: comment)

private theorem endsBlank_render (options : HeaderOptions) (generatedAt : Option Text) :
    (render options generatedAt).EndsBlank := by
  have hend := endsLine_flatMap_commentLine (comments options generatedAt)
  rw [render, Text.endsBlank_concat_iff]
  exact (Text.endsLine_iff.mp hend).resolve_left (by simp [comments, commentLine])

end Header

namespace Catalog

variable {source : Text}

/-- A template whose body does not end with a line is the last one of a source
    that does not end with a line. -/
private theorem getLast?_eq_of_not_endsLine {catalog : Catalog}
    (hparse : parse source = .ok catalog)
    {template : Template} (hmem : template ∈ catalog.templates)
    (hend : ¬ template.body.EndsLine) :
    catalog.templates.getLast? = some template ∧ ¬ source.EndsLine := by
  obtain ⟨-, htemplates⟩ := parse_eq_ok_iff.mp hparse
  rw [htemplates] at hmem ⊢
  obtain ⟨block, hblock, rfl⟩ := List.mem_map.mp hmem
  obtain ⟨above, below, hblocks⟩ := List.append_of_mem hblock
  have hbelow : below = [] := by
    by_contra hne
    obtain ⟨later, hlater⟩ := List.exists_mem_of_ne_nil below hne
    have hends := pairwise_endsLine_blocks source
    rw [hblocks, List.pairwise_append, List.pairwise_cons] at hends
    exact hend (hends.2.1.1 later hlater)
  have hlast : (blocks source).getLast? = some block := by
    rw [hblocks, hbelow, List.getLast?_concat]
  refine ⟨by rw [List.getLast?_map, hlast, Option.map_some], fun hsource => hend ?_⟩
  exact hsource.of_suffix (body_suffix_of_getLast?_blocks hlast)

end Catalog

namespace Output

variable {catalog : Catalog} {invocation : Invocation}

/-- The output so far, when the blocks of invocations are written behind the
    header. -/
def soFar (catalog : Catalog) (options : OutputOptions) (invocations : List Invocation) : Text :=
  Header.render options.header options.generatedAt ++ invocations.flatMap (block catalog)

private theorem endsBlank_soFar_nil (catalog : Catalog) (options : OutputOptions) :
    (soFar catalog options []).EndsBlank := by
  rw [soFar, List.flatMap_nil, List.append_nil]
  exact Header.endsBlank_render _ _

private theorem render_eq_soFar (catalog : Catalog) (plan : Plan) (options : OutputOptions) :
    render catalog plan options =
      soFar catalog options (plan.sortedHosts.flatMap Prod.snd) := by
  rw [render, body_eq_flatMap, soFar]

private theorem endsLine_block (catalog : Catalog) (invocation : Invocation) :
    (block catalog invocation).EndsLine := by
  rw [block]
  split
  · exact Text.endsLine_concat _
  · exact Text.endsLine_iff.mpr (.inl rfl)

/-- Whatever is written, the next block starts on a line of its own. -/
private theorem getLast?_soFar (catalog : Catalog) (options : OutputOptions)
    (invocations : List Invocation) :
    (soFar catalog options invocations).getLast? = some '\n' := by
  have hheader : (Header.render options.header options.generatedAt).EndsLine :=
    Text.endsLine_concat _
  have hend : (soFar catalog options invocations).EndsLine :=
    hheader.append (Text.endsLine_flatMap fun invocation _ => endsLine_block catalog invocation)
  exact (Text.endsLine_iff.mp hend).resolve_left (by simp [soFar, Header.render])

/-- A block has an empty line behind it exactly when nothing stands behind the
    last line feed of what is filled in. -/
theorem endsBlank_soFar_concat_iff {template : Template}
    (hget : catalog.get? invocation.check = some template)
    (hargs : ∀ arg ∈ invocation.args, '\n' ∉ arg) (options : OutputOptions)
    (before : List Invocation) :
    (soFar catalog options (before ++ [invocation])).EndsBlank ↔
      Template.fill template.body.openLine invocation.args = [] := by
  have hblock : soFar catalog options (before ++ [invocation]) =
      soFar catalog options before ++ (Template.fill template.body invocation.args ++ ['\n']) := by
    rw [soFar, List.flatMap_append, List.flatMap_singleton, ← List.append_assoc, ← soFar, block,
      hget]
  rw [hblock, Text.endsBlank_append_concat_iff (getLast?_soFar catalog options before),
    Template.endsLine_fill_iff hargs]

end Output

namespace Compilation

/-- The output starts with a header that an empty line ends. A block has an
    empty line behind it exactly when nothing stands behind the last line feed
    of what is filled in. Where there is something, the template is the last one
    of a catalog source that does not end with a line. -/
theorem blank_behind_block_iff {catalogSource source : Text} {compilation : Compilation}
    (haccept : ofSources catalogSource source = .ok compilation) (options : OutputOptions) :
    compile catalogSource source options = .ok (Output.soFar compilation.catalog options
      (compilation.plan.sortedHosts.flatMap Prod.snd)) ∧
    (Output.soFar compilation.catalog options []).EndsBlank ∧
    ∀ before invocation after,
      compilation.plan.sortedHosts.flatMap Prod.snd = before ++ invocation :: after →
        ∃ template, compilation.catalog.get? invocation.check = some template ∧
          ((Output.soFar compilation.catalog options (before ++ [invocation])).EndsBlank ↔
            Template.fill template.body.openLine invocation.args = []) ∧
          (¬ (Output.soFar compilation.catalog options (before ++ [invocation])).EndsBlank →
            ¬ template.body.EndsLine ∧
              compilation.catalog.templates.getLast? = some template ∧
              ¬ catalogSource.EndsLine) := by
  obtain ⟨hparse, hresolve⟩ := ofSources_eq_ok_iff.mp haccept
  refine ⟨?_, Output.endsBlank_soFar_nil _ _, ?_⟩
  · rw [compile_eq_ok haccept, render, Output.render_eq_soFar]
  · intro before invocation after hsplit
    have hmem : invocation ∈ compilation.plan.sortedHosts.flatMap Prod.snd := by simp [hsplit]
    obtain ⟨host, invocations, hhost, hgiven⟩ := Plan.exists_host?_of_mem_sortedHosts hmem
    obtain ⟨template, hget⟩ :=
      Catalog.supplies_of_resolve_eq_ok hresolve host invocations hhost invocation hgiven
    have hargs := Catalog.no_feed_of_accepted hresolve hhost invocation hgiven
    have hblank := Output.endsBlank_soFar_concat_iff hget hargs options before
    refine ⟨template, hget, hblank, fun hnot => ?_⟩
    have hend : ¬ template.body.EndsLine := by
      intro hend
      rw [Text.openLine_eq_nil_iff.mpr hend] at hblank
      exact hnot (hblank.mpr (Template.fillFrom_nil 1 invocation.args))
    exact ⟨hend, Catalog.getLast?_eq_of_not_endsLine hparse (List.mem_of_find?_eq_some hget) hend⟩

/-- A template that ends a line, and the last one of a source that does not. -/
theorem blank_behind_block_iff_unterminated :
    ∃ compilation, ofSources "$a\nA\n$b\nrun $1".toList "h $a, $b\n".toList =
        .ok compilation ∧
      (Output.soFar compilation.catalog {} []).EndsBlank ∧
      (Output.soFar compilation.catalog {} [⟨['a'], [['h']]⟩]).EndsBlank ∧
      ¬ (Output.soFar compilation.catalog {} [⟨['a'], [['h']]⟩, ⟨['b'], [['h']]⟩]).EndsBlank := by
  obtain ⟨compilation, haccept⟩ : ∃ compilation,
    ofSources "$a\nA\n$b\nrun $1".toList "h $a, $b\n".toList = .ok compilation := ⟨_, rfl⟩
  have hgiven : compilation.plan.sortedHosts.flatMap Prod.snd =
      [⟨['a'], [['h']]⟩, ⟨['b'], [['h']]⟩] := by
    cases haccept
    exact congrArg (List.flatMap Prod.snd) (List.mergeSort_singleton _)
  have hfirst : compilation.catalog.get? ['a'] = some ⟨['a'], "A\n".toList, 1⟩ := by
    cases haccept
    rfl
  have hsecond : compilation.catalog.get? ['b'] = some ⟨['b'], "run $1".toList, 3⟩ := by
    cases haccept
    rfl
  obtain ⟨-, hheader, hblocks⟩ := blank_behind_block_iff haccept {}
  refine ⟨compilation, haccept, hheader, ?_, ?_⟩
  · obtain ⟨template, hget, hblank, -⟩ := hblocks [] _ _ hgiven
    cases hfirst.symm.trans hget
    exact hblank.mpr (Template.fillFrom_nil 1 _)
  · obtain ⟨template, hget, hblank, -⟩ := hblocks [_] _ _ hgiven
    cases hsecond.symm.trans hget
    intro hend
    exact List.cons_ne_nil _ _
      ((Template.fillFrom_cons (by decide) 1 _ _).symm.trans (hblank.mp hend))

/-- Two blocks of an unterminated template, one right behind the other. -/
theorem not_blank_behind_every_block :
    ¬ ∀ (catalogSource source : Text) (compilation : Compilation) (options : OutputOptions),
      ofSources catalogSource source = .ok compilation →
        ∀ before invocation after,
          compilation.plan.sortedHosts.flatMap Prod.snd = before ++ invocation :: after →
            (Output.soFar compilation.catalog options (before ++ [invocation])).EndsBlank := by
  intro hblank
  obtain ⟨compilation, haccept⟩ : ∃ compilation,
    ofSources "$a\nrun $1".toList "h $a, $a\n".toList = .ok compilation := ⟨_, rfl⟩
  have hgiven : compilation.plan.sortedHosts.flatMap Prod.snd =
      [⟨['a'], [['h']]⟩, ⟨['a'], [['h']]⟩] := by
    cases haccept
    exact congrArg (List.flatMap Prod.snd) (List.mergeSort_singleton _)
  have hget : compilation.catalog.get? ['a'] = some ⟨['a'], "run $1".toList, 1⟩ := by
    cases haccept
    rfl
  have hend := hblank _ _ compilation {} haccept [] _ _ hgiven
  rw [Output.endsBlank_soFar_concat_iff hget (by decide)] at hend
  exact List.cons_ne_nil _ _ ((Template.fillFrom_cons (by decide) 1 _ _).symm.trans hend)

end Compilation

end CheckPlan
