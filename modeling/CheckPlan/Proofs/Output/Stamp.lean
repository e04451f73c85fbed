import CheckPlan.Compilation

namespace CheckPlan

namespace Header

/-- The header up to the place of the time. -/
def opening (generator : Text) : Text :=
  '#' :: ' ' :: ("Generated by ".toList ++ generator)

/-- What stands in the place of the time. -/
def stamp (wanted : Bool) (time : Text) : Text :=
  if wanted then " on ".toList ++ time else []

/-- The header behind the place of the time. -/
def closing (notice : List Text) : Text :=
  '\n' :: ((warning :: notice).flatMap commentLine ++ ['\n'])

private theorem render_some (options : HeaderOptions) (time : Text) :
    render options (some time) =
      opening options.generator ++ (stamp options.timestamp time ++ closing options.notice) := by
  have horigin : origin options.generator ((some time).filter fun _ => options.timestamp) =
      "Generated by ".toList ++ options.generator ++ stamp options.timestamp time := by
    cases options.timestamp with
    | true => exact List.append_assoc _ _ _
    | false => exact (List.append_nil _).symm
  rw [render, comments, List.flatMap_cons, horigin, commentLine, opening, closing]
  simp only [List.cons_append, List.append_assoc, List.nil_append]

end Header

/-- An output with the time is one text around the stamp. -/
theorem Compilation.exists_render_eq_stamp (compilation : Compilation) (header : HeaderOptions) :
    ∃ below, ∀ time, compilation.render ⟨header, some time⟩ =
      Header.opening header.generator ++ (Header.stamp header.timestamp time ++ below) := by
  refine ⟨Header.closing header.notice ++ Output.body compilation.catalog compilation.plan,
    fun time => ?_⟩
  rw [Compilation.render, Output.render, Header.render_some, List.append_assoc,
    List.append_assoc]

end CheckPlan
