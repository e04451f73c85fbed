import CheckPlan.Files.Tree

namespace CheckPlan

/-- The files of a file system, the file that each path leads to, whether there
    is anything in its place or not, and what the files hold. -/
class FileView (σ : Type) where
  File : Type
  leadsTo? : σ → Path → Option File
  content? : σ → File → Option FileContent

namespace FileView

variable {σ : Type} [FileAccess (StateM σ)]

/-- What is read where a path leads in a file system, and the file system behind
    the reading. -/
def readIn (files : σ) (path : Path) : Except FileError Text × σ :=
  (FileAccess.read path : StateM σ (Except FileError Text)) files

/-- Whether a text can be written where a path leads in a file system, and the
    file system behind the writing. -/
def writeIn (files : σ) (path : Path) (text : Text) : Except FileError Unit × σ :=
  (FileAccess.write path text : StateM σ (Except FileError Unit)) files

variable [FileView σ]

omit [FileAccess (StateM σ)] in
/-- A path leads to a file that holds a text. -/
def HoldsText (files : σ) (path : Path) (text : Text) : Prop :=
  ∃ file, leadsTo? files path = some file ∧ content? files file = some (.text text)

/-- The second file system is the first one with a text in one file. All paths
    lead where they led, and what could be read of other files still can. -/
structure Replaces (before after : σ) (file : File σ) (text : Text) : Prop where
  content : content? after file = some (.text text)
  others : ∀ other, other ≠ file → content? after other = content? before other
  paths : ∀ path, leadsTo? after path = leadsTo? before path
  readings : ∀ path read, leadsTo? before path ≠ some file →
    (readIn before path).1 = .ok read → (readIn after path).1 = .ok read

/-- Two file systems have the same files. -/
structure SameFiles (first second : σ) : Prop where
  paths : ∀ path, leadsTo? first path = leadsTo? second path
  contents : ∀ file, content? first file = content? second file

omit [FileAccess (StateM σ)] in
theorem SameFiles.refl (files : σ) : SameFiles files files :=
  ⟨fun _ => rfl, fun _ => rfl⟩

/-- Replacing a text by itself changes no file. -/
theorem Replaces.sameFiles {before after later : σ} {file : File σ} {text : Text}
    (hfirst : Replaces before after file text) (hsecond : Replaces after later file text) :
    SameFiles later after := by
  refine ⟨hsecond.paths, fun other => ?_⟩
  by_cases hother : other = file
  · rw [hother, hsecond.content, hfirst.content]
  · exact hsecond.others other hother

end FileView

open FileView in
/-- What is relied upon of a file system. Reading changes nothing, a write that
    fails changes nothing either, and a write that succeeds replaces the content of
    one file and nothing else. In particular it does not change whether the file can
    be written: this is `write_again`, and that a run can be repeated, as
    `AllOrNothing` says, rests on it. -/
class LawfulFiles (σ : Type) [FileAccess (StateM σ)] [FileView σ] : Prop where
  read_keeps : ∀ (files : σ) (path : Path), (readIn files path).2 = files
  read_content : ∀ (files : σ) (path : Path) (text : Text), (readIn files path).1 = .ok text →
    HoldsText files path text
  failed_write_keeps : ∀ (files : σ) (path : Path) (text : Text) (error : FileError),
    (writeIn files path text).1 = .error error → (writeIn files path text).2 = files
  write_replaces : ∀ (files : σ) (path : Path) (text : Text),
    (writeIn files path text).1 = .ok () →
      ∃ file, leadsTo? files path = some file ∧
        Replaces files (writeIn files path text).2 file text
  write_again : ∀ (files : σ) (path : Path) (text : Text),
    (writeIn files path text).1 = .ok () →
      (writeIn (writeIn files path text).2 path text).1 = .ok ()

open FileView in
/-- A file system that looks at the path only when it accepts a write. The outputs
    of different times differ in the stamp, so that executions end with the same
    status, as `AlikeButStamp` says, rests on it. -/
class AcceptsAnyText (σ : Type) [FileAccess (StateM σ)] : Prop where
  write_alike : ∀ (files : σ) (path : Path) (first second : Text),
    (writeIn files path first).1 = (writeIn files path second).1

namespace FileTree

/-- The place of a file that a path leads to. -/
def placeOf? (tree : FileTree) (path : Path) : Option Place :=
  (tree.locate path).toOption.bind fun (directory, name) =>
    if asksDirectory path || isTooLong name then none else some (follow directory name)

/-- The content of the file at a place. -/
def contentAt? (tree : FileTree) (place : Place) : Option FileContent :=
  match tree.get? place with
  | some (.file content) => some content
  | _ => none

instance : FileView FileTree where
  File := Place
  leadsTo? := placeOf?
  content? := contentAt?

variable {tree : FileTree} {place : Place} {content : FileContent}

private theorem contentAt?_eq_some_iff :
    tree.contentAt? place = some content ↔ tree.get? place = some (.file content) := by
  unfold contentAt?
  split
  · next found hget => rw [hget, Option.some.injEq, Option.some.injEq, FileNode.file.injEq]
  · next hnone =>
    simp only [reduceCtorEq, false_iff]
    exact hnone content

/-- A file put at a place that is no directory is all that changes. -/
theorem get?_put (hfree : tree.get? place ≠ some .directory) (other : Place) :
    (tree.put place (.file content)).get? other =
      if other = place then some (.file content) else tree.get? other := by
  have habove : ¬ isAbove place = true := fun habove => hfree (by rw [get?, if_pos habove])
  by_cases hplace : other = place
  · simp only [get?, put, hplace, if_neg habove, if_pos]
  · simp only [get?, put, if_neg hplace]

private theorem walk_put (hfree : tree.get? place ≠ some .directory) (start : Place)
    (parts : List Text) :
    ((tree.put place (.file content)).walk start parts).toOption =
      (tree.walk start parts).toOption := by
  induction parts generalizing start with
  | nil => rfl
  | cons part rest ih =>
    rw [walk, walk, get?_put hfree]
    split
    · rfl
    · by_cases hplace : follow start part = place
      · rw [if_pos hplace, hplace]
        cases hget : tree.get? place with
        | none => rfl
        | some node =>
          cases node with
          | directory => exact absurd hget hfree
          | file held => rfl
      · rw [if_neg hplace]
        cases tree.get? (follow start part) with
        | none => rfl
        | some node =>
          cases node with
          | directory => exact ih _
          | file held => rfl

private theorem toOption_map {ε α β : Type} (outcome : Except ε α) (f : α → β) :
    (outcome.map f).toOption = outcome.toOption.map f := by
  cases outcome <;> rfl

theorem placeOf?_put (hfree : tree.get? place ≠ some .directory) (path : Path) :
    (tree.put place (.file content)).placeOf? path = tree.placeOf? path := by
  have hlocate : ((tree.put place (.file content)).locate path).toOption =
      (tree.locate path).toOption := by
    simp only [locate]
    split
    · rfl
    · split
      · rfl
      · split
        · rfl
        · rw [toOption_map, toOption_map, walk_put hfree]
  rw [placeOf?, placeOf?, hlocate]

/-- A file is found where its path leads. -/
theorem content_eq_ok_iff {path : Path} :
    tree.content path = .ok content ↔
      ∃ place, tree.placeOf? path = some place ∧ tree.contentAt? place = some content := by
  rw [placeOf?, FileTree.content]
  cases tree.locate path with
  | error error => simp [Except.toOption]
  | ok found =>
    obtain ⟨directory, name⟩ := found
    cases hlong : isTooLong name with
    | true => simp [Except.toOption, hlong]
    | false =>
      cases hget : tree.get? (follow directory name) with
      | none => cases asksDirectory path <;> simp [Except.toOption, hlong, hget, contentAt?]
      | some node =>
        cases node <;> cases asksDirectory path <;>
          simp [Except.toOption, hlong, hget, contentAt?]

/-- A write puts a file where its path leads, unless there is a directory. -/
theorem write_eq_ok_iff {path : Path} {text : Text} {changed : FileTree} :
    tree.write path text = .ok changed ↔
      ∃ place, tree.placeOf? path = some place ∧ tree.get? place ≠ some .directory ∧
        tree.put place (.file (.text text)) = changed := by
  rw [placeOf?, write]
  cases tree.locate path with
  | error error => simp [Except.toOption]
  | ok found =>
    obtain ⟨directory, name⟩ := found
    cases hlong : isTooLong name with
    | true => cases asksDirectory path <;> simp [Except.toOption, hlong]
    | false =>
      cases hget : tree.get? (follow directory name) with
      | none => cases asksDirectory path <;> simp [Except.toOption, hlong, hget]
      | some node =>
        cases node <;> cases asksDirectory path <;> simp [Except.toOption, hlong, hget]

theorem read_eq_ok_iff {path : Path} {text : Text} :
    tree.read path = .ok text ↔ tree.content path = .ok (.text text) := by
  rw [FileTree.read]
  cases tree.content path with
  | error error => simp
  | ok content => cases content <;> simp [FileContent.decode]

private theorem replaces_put (hfree : tree.get? place ≠ some .directory) (text : Text) :
    FileView.Replaces tree (tree.put place (.file (.text text))) place text := by
  have hothers (other : Place) (hother : other ≠ place) :
      (tree.put place (.file (.text text))).contentAt? other = tree.contentAt? other := by
    rw [contentAt?, contentAt?, get?_put hfree, if_neg hother]
  refine ⟨?_, hothers, placeOf?_put hfree, fun path read hne hread => ?_⟩
  · exact contentAt?_eq_some_iff.mpr (by rw [get?_put hfree, if_pos rfl])
  · obtain ⟨other, hplace, hcontent⟩ := content_eq_ok_iff.mp (read_eq_ok_iff.mp hread)
    have hother : other ≠ place := fun hsame => hne (hplace.trans (congrArg some hsame))
    refine read_eq_ok_iff.mpr (content_eq_ok_iff.mpr ⟨other, ?_, ?_⟩)
    · rw [placeOf?_put hfree, hplace]
    · rw [hothers other hother, hcontent]

/-- A write that succeeds puts a file where its path leads. -/
private theorem exists_put_of_writeIn {path : Path} {text : Text}
    (hwrite : (FileView.writeIn tree path text).1 = .ok ()) :
    ∃ place, tree.placeOf? path = some place ∧ tree.get? place ≠ some .directory ∧
      (FileView.writeIn tree path text).2 = tree.put place (.file (.text text)) := by
  simp only [FileView.writeIn, FileAccess.write] at hwrite ⊢
  cases hchanged : tree.write path text with
  | error error =>
    rw [hchanged] at hwrite
    cases hwrite
  | ok changed =>
    obtain ⟨place, hplace, hfree, rfl⟩ := write_eq_ok_iff.mp hchanged
    exact ⟨place, hplace, hfree, rfl⟩

instance : LawfulFiles FileTree where
  read_keeps _ _ := rfl
  read_content _ _ _ hread := content_eq_ok_iff.mp (read_eq_ok_iff.mp hread)
  failed_write_keeps tree path text error hwrite := by
    simp only [FileView.writeIn, FileAccess.write] at hwrite ⊢
    cases hchanged : tree.write path text with
    | error _ => rfl
    | ok changed =>
      rw [hchanged] at hwrite
      cases hwrite
  write_replaces tree path text hwrite := by
    obtain ⟨place, hplace, hfree, hput⟩ := exists_put_of_writeIn hwrite
    refine ⟨place, hplace, ?_⟩
    rw [hput]
    exact replaces_put hfree text
  write_again tree path text hwrite := by
    obtain ⟨place, hplace, hfree, hput⟩ := exists_put_of_writeIn hwrite
    have hagain : (tree.put place (.file (.text text))).get? place ≠ some .directory := by
      rw [get?_put hfree, if_pos rfl]
      simp
    have hwritten := (@write_eq_ok_iff _ path text _).mpr
      ⟨place, (placeOf?_put hfree path).trans hplace, hagain, rfl⟩
    rw [hput]
    simp only [FileView.writeIn, FileAccess.write]
    rw [hwritten]

instance : AcceptsAnyText FileTree where
  write_alike tree path first second := by
    simp only [FileView.writeIn, FileAccess.write, FileTree.write]
    cases tree.locate path with
    | error error => rfl
    | ok found =>
      obtain ⟨directory, name⟩ := found
      dsimp only
      by_cases hdirectory : asksDirectory path = true
      · rw [if_pos hdirectory, if_pos hdirectory]
      · rw [if_neg hdirectory, if_neg hdirectory]
        by_cases hlong : isTooLong name = true
        · rw [if_pos hlong, if_pos hlong]
        · rw [if_neg hlong, if_neg hlong]
          cases tree.get? (follow directory name) with
          | none => rfl
          | some node => cases node <;> rfl

end FileTree

end CheckPlan
