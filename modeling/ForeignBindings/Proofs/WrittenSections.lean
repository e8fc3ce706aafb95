import ForeignBindings.Proofs.RunFrame

/-!
# What is written

Sections are written in the order of their numbers, and sections with one number as they stand.
Writing stops at the first failure. So the files are always those of the sections before it, where
the last section with a file decides what it holds (`writesInOrder`).

A write opens its file, which empties it, and then puts the content into it. Where opening fails,
nothing has changed, and on a tree of files nothing else can fail. A device that runs full may fail
later, and leaves a part of the content: then the files are still those of the sections before, all
but the one that was being written.
-/

namespace ForeignBindings

/-! ## Contents of files -/

namespace FileView

variable {σ : Type} {view : FileView σ}

/-- What the file at a location holds. -/
def file? (view : FileView σ) (s : σ) (location : Location) : Option ByteArray :=
  match view.stand? s location with
  | some (.file content) => some content
  | _ => none

theorem Touches.file?_eq {files dirs : Location → Prop} {s s' : σ}
    (touches : view.Touches files dirs s s') {location : Location} (other : ¬files location) :
    view.file? s' location = view.file? s location := by
  unfold file?
  rcases touches.stands location with same | ⟨inFiles, -⟩ | ⟨-, absent, made⟩
  · rw [same]
  · exact absurd inFiles other
  · rw [absent, made]

end FileView

/-- A text that is written is all that its file holds. A write that fails may leave anything in its
own file. -/
structure FileSystem.WritesWhole {σ : Type} (fs : FileSystem (StateM σ)) (view : FileView σ) : Prop
    extends fs.ChangesInPlace view where
  written : ∀ path text s s', (fs.writeText path text).run s = (.ok (), s') →
    view.file? s' (Path.locate (view.home s) path) = some text.toUTF8

namespace FileTree

theorem writesWhole : fileSystem.WritesWhole view where
  toChangesInPlace := changesInPlace
  written path text s s' ran := by
    obtain ⟨place, within, here, -, rfl⟩ := writeBytes_ok (attempt_ok ran)
    have stands : view.stand? (s.put place (.file text.toUTF8)) place.location =
        some (.file text.toUTF8) :=
      congrArg (Option.map FileNode.stand) (within.get?_fill (.file text.toUTF8))
    rw [← here, FileView.file?, stands]

/-- Only opening a file may fail, so a write that fails has changed nothing. -/
theorem writeText_error {path : Path} {text : String} {tree next : FileTree} {e : FileError}
    (ran : (fileSystem.writeText path text).run tree = (.error e, next)) :
    tree.openToWrite path = .error e ∧ next = tree := by
  obtain ⟨failed, same⟩ := attempt_error ran
  exact ⟨writeBytes_eq_error.mp failed, same⟩

end FileTree

namespace Pipeline

/-! ## Sections and their files -/

/-- The location of the file of a section below a directory. -/
def fileOf (home : Location) (dir : Path) (s : Section) : Location :=
  Path.locate home (dir.join s.fileName)

/-- Where a section failed to be written, its file may hold a part of the content. -/
def MayBeTorn (home : Location) (dir : Path) (e : WriteFailure) (failing : Section)
    (location : Location) : Prop :=
  (∃ cause, e = .writing (dir.join failing.fileName) cause) ∧ fileOf home dir failing = location

/-- Some sections were written one after the other: the last one with a file decides what it holds,
and no other file has changed. -/
structure Written (home : Location) (dir : Path) (sections : List Section)
    (before after : Location → Option ByteArray) : Prop where
  last : ∀ front s back, sections = front ++ s :: back →
    (∀ t ∈ back, fileOf home dir t ≠ fileOf home dir s) →
    after (fileOf home dir s) = some s.content.toUTF8
  others : ∀ location, (∀ s ∈ sections, fileOf home dir s ≠ location) →
    after location = before location

section Written

variable {home : Location} {dir : Path} {before middle after : Location → Option ByteArray}

theorem Written.nil : Written home dir [] before before :=
  ⟨fun front _ _ whole => by (cases front <;> cases whole), fun _ _ => rfl⟩

theorem Written.cons {first : Section} {rest : List Section}
    (here : middle (fileOf home dir first) = some first.content.toUTF8)
    (same : ∀ location, fileOf home dir first ≠ location → middle location = before location)
    (later : Written home dir rest middle after) : Written home dir (first :: rest) before after where
  last front s back whole free := by
    rcases List.cons_eq_append_iff.mp whole with ⟨-, split⟩ | ⟨front', -, split⟩
    · cases split
      rw [later.others _ free, here]
    · exact later.last front' s back split free
  others location free := by
    obtain ⟨notFirst, notRest⟩ := List.forall_mem_cons.mp free
    rw [later.others location notRest, same location notFirst]

end Written

/-! ## Steps of writing -/

theorem run_bind {σ α β : Type} {x : StateM σ α} {f : α → StateM σ β} {s s' : σ} {a : α}
    (ran : x.run s = (a, s')) : (x >>= f).run s = (f a).run s' := by
  rw [StateT.run_bind, ran]
  rfl

section Steps

variable {σ : Type} {fs : FileSystem (StateM σ)} {view : FileView σ} {dir : Path} {s s' : σ}

theorem files_makeRoom (inPlace : fs.ChangesInPlace view) {file : Path}
    {result : Except WriteFailure Unit} (ran : (makeRoom fs file).run s = (result, s')) :
    view.home s' = view.home s ∧ view.file? s' = view.file? s := by
  have anywhere : ∀ names, names <+: file.names.dropLast → True := fun _ _ => trivial
  have stays : view.Stays (view.home s) (fun _ => False) (fun _ => True) (makeRoom fs file) _ :=
    stays_makeRoom inPlace anywhere
  obtain ⟨touches, -⟩ := stays s rfl
  rw [ran] at touches
  exact ⟨touches.home, funext fun _ => touches.file?_eq id⟩

theorem writeSection_cases {first : Section} {result : Except WriteFailure Path}
    (ran : (writeSection fs dir first).run s = (result, s')) :
    (∃ e, (makeRoom fs (dir.join first.fileName)).run s = (.error e, s') ∧ result = .error e) ∨
    ∃ middle written, (makeRoom fs (dir.join first.fileName)).run s = (.ok (), middle) ∧
      (fs.writeText (dir.join first.fileName) first.content).run middle = (written, s') ∧
      result = (written.mapError (.writing (dir.join first.fileName))).map
        fun _ => dir.join first.fileName := by
  rcases room : (makeRoom fs (dir.join first.fileName)).run s with ⟨e | _, middle⟩
  · rw [writeSection, run_bind room] at ran
    cases ran
    exact .inl ⟨e, rfl, rfl⟩
  · rcases wrote : (fs.writeText (dir.join first.fileName) first.content).run middle with
      ⟨written, final⟩
    rw [writeSection, run_bind room] at ran
    dsimp only at ran
    rw [run_bind wrote] at ran
    refine .inr ⟨middle, written, rfl, ?_⟩
    cases written <;> cases ran <;> exact ⟨wrote, rfl⟩

/-- A section that is not written changes no file but its own, and that only by the write. -/
theorem writeSection_error (inPlace : fs.ChangesInPlace view) {first : Section} {e : WriteFailure}
    (ran : (writeSection fs dir first).run s = (.error e, s')) {location : Location}
    (untorn : ¬MayBeTorn (view.home s) dir e first location) :
    view.file? s' location = view.file? s location := by
  rcases writeSection_cases ran with ⟨e', room, -⟩ | ⟨middle, cause | _, room, wrote, result⟩
  · rw [(files_makeRoom inPlace room).2]
  · cases result
    obtain ⟨home, files⟩ := files_makeRoom inPlace room
    have other : fileOf (view.home s) dir first ≠ location := fun own => untorn ⟨⟨cause, rfl⟩, own⟩
    have touches := inPlace.writeText (dir.join first.fileName) first.content middle
    rw [wrote, home] at touches
    rw [← files]
    exact touches.file?_eq (Ne.symm other)
  · cases result

/-- In a tree of files, a section that is not written changes no file at all. -/
theorem writeSection_error_tree {tree tree' : FileTree} {first : Section} {e : WriteFailure}
    (ran : (writeSection FileTree.fileSystem dir first).run tree = (.error e, tree')) :
    FileTree.view.file? tree' = FileTree.view.file? tree := by
  rcases writeSection_cases ran with ⟨e', room, -⟩ | ⟨middle, cause | _, room, wrote, result⟩
  · exact (files_makeRoom FileTree.changesInPlace room).2
  · rw [(FileTree.writeText_error wrote).2, (files_makeRoom FileTree.changesInPlace room).2]
  · cases result

variable (whole : fs.WritesWhole view)
include whole

/-- A section that is written changes its file and no other one. -/
theorem writeSection_ok {first : Section} {file : Path}
    (ran : (writeSection fs dir first).run s = (.ok file, s')) :
    file = dir.join first.fileName ∧ view.home s' = view.home s ∧
      view.file? s' (fileOf (view.home s) dir first) = some first.content.toUTF8 ∧
      ∀ location, fileOf (view.home s) dir first ≠ location →
        view.file? s' location = view.file? s location := by
  rcases writeSection_cases ran with ⟨e, -, failed⟩ | ⟨middle, _ | _, room, wrote, result⟩
  · cases failed
  · cases result
  · cases result
    obtain ⟨home, files⟩ := files_makeRoom whole.toChangesInPlace room
    have touches := whole.writeText (dir.join first.fileName) first.content middle
    rw [wrote] at touches
    rw [fileOf, ← home, ← files]
    refine ⟨rfl, touches.home, whole.written _ _ _ _ wrote, fun location other => ?_⟩
    exact touches.file?_eq (Ne.symm other)

end Steps

/-! ## Runs of steps -/

section Runs

variable {σ : Type} {fs : FileSystem (StateM σ)} {view : FileView σ} {dir : Path}
  {s middle final : σ} {first : Section} {rest : List Section}

theorem writeSections_cons_ok {file : Path} {files : List Path}
    (wrote : (writeSection fs dir first).run s = (.ok file, middle))
    (later : (writeSections fs dir rest).run middle = (.ok files, final)) :
    (writeSections fs dir (first :: rest)).run s = (.ok (file :: files), final) := by
  rw [writeSections, run_bind wrote]
  dsimp only
  rw [run_bind later]
  rfl

theorem writeSections_cons_cases {result : Except WriteFailure (List Path)}
    (ran : (writeSections fs dir (first :: rest)).run s = (result, final)) :
    (∃ e, (writeSection fs dir first).run s = (.error e, final) ∧ result = .error e) ∨
    ∃ file middle later, (writeSection fs dir first).run s = (.ok file, middle) ∧
      (writeSections fs dir rest).run middle = (later, final) ∧
      result = later.map (file :: ·) := by
  rcases wrote : (writeSection fs dir first).run s with ⟨e | file, middle⟩
  · rw [writeSections, run_bind wrote] at ran
    cases ran
    exact .inl ⟨e, rfl, rfl⟩
  · rcases ranRest : (writeSections fs dir rest).run middle with ⟨later, final'⟩
    rw [writeSections, run_bind wrote] at ran
    dsimp only at ran
    rw [run_bind ranRest] at ran
    refine .inr ⟨file, middle, later, rfl, ?_⟩
    cases later <;> cases ran <;> exact ⟨ranRest, rfl⟩

/-- Writing `done` leads to `middle`, where writing `failing` fails. -/
def FailsAt (fs : FileSystem (StateM σ)) (dir : Path) (done : List Section) (failing : Section)
    (e : WriteFailure) (before middle after : σ) : Prop :=
  ∃ files, (writeSections fs dir done).run before = (.ok files, middle) ∧
    (writeSection fs dir failing).run middle = (.error e, after)

theorem exists_failsAt {sections : List Section} {e : WriteFailure}
    (ran : (writeSections fs dir sections).run s = (.error e, final)) :
    ∃ done failing rest middle, sections = done ++ failing :: rest ∧
      FailsAt fs dir done failing e s middle final := by
  -- What is done grows in front, so its run is put together again with the first section.
  induction sections generalizing s with
  | nil => cases ran
  | cons first rest ih =>
      rcases writeSections_cons_cases ran with
        ⟨e', wrote, same⟩ | ⟨file, middle, later | files, wrote, ranRest, result⟩
      · cases same
        exact ⟨[], first, rest, s, rfl, [], rfl, wrote⟩
      · cases result
        obtain ⟨done, failing, rest, reached, rfl, files, ranDone, failed⟩ := ih ranRest
        exact ⟨first :: done, failing, rest, reached, rfl, file :: files,
          writeSections_cons_ok wrote ranDone, failed⟩
      · cases result

variable (whole : fs.WritesWhole view)
include whole

theorem writeSections_ok {sections : List Section} {files : List Path}
    (ran : (writeSections fs dir sections).run s = (.ok files, final)) :
    files = sections.map (dir.join ·.fileName) ∧ view.home final = view.home s ∧
      Written (view.home s) dir sections (view.file? s) (view.file? final) := by
  induction sections generalizing s files with
  | nil =>
      cases ran
      exact ⟨rfl, rfl, .nil⟩
  | cons first rest ih =>
      rcases writeSections_cons_cases ran with
        ⟨e, -, failed⟩ | ⟨file, middle, e | files', wrote, ranRest, result⟩
      · cases failed
      · cases result
      · cases result
        obtain ⟨rfl, home, here, same⟩ := writeSection_ok whole wrote
        obtain ⟨rfl, home', written⟩ := ih ranRest
        rw [home] at home' written
        exact ⟨rfl, home', .cons here same written⟩

/-- Writing fails after some sections were written. No file is different from what they leave, apart
from the one that was being written. -/
theorem FailsAt.written {done : List Section} {failing : Section} {e : WriteFailure}
    (fails : FailsAt fs dir done failing e s middle final) :
    Written (view.home s) dir done (view.file? s) (view.file? middle) ∧
      ∀ location, ¬MayBeTorn (view.home s) dir e failing location →
        view.file? final location = view.file? middle location := by
  obtain ⟨files, ranDone, failed⟩ := fails
  obtain ⟨-, home, written⟩ := writeSections_ok whole ranDone
  refine ⟨written, fun location untorn => ?_⟩
  rw [← home] at untorn
  exact writeSection_error whole.toChangesInPlace failed untorn

end Runs

/-! ## Plain file names -/

/-- Names that lead down, with slashes between them. -/
def IsPlain (fileName : String) : Prop :=
  ∃ names, names ≠ [] ∧ (∀ name ∈ names, IsSingleName name) ∧ fileName = "/".intercalate names

/-- Sections with plain file names have one file only if they have one file name. -/
theorem fileOf_eq_iff {home : Location} {dir : Path} {t u : Section} (plainT : IsPlain t.fileName)
    (plainU : IsPlain u.fileName) :
    fileOf home dir t = fileOf home dir u ↔ t.fileName = u.fileName := by
  constructor
  · obtain ⟨parts, nonempty, single, whole⟩ := plainT
    obtain ⟨parts', nonempty', single', whole'⟩ := plainU
    intro same
    rw [fileOf, fileOf, whole, whole', Path.locate_join_intercalate single nonempty,
      Path.locate_join_intercalate single' nonempty'] at same
    rw [whole, whole', List.append_cancel_left same]
  · intro same
    rw [fileOf, fileOf, same]

/-! ## The statement -/

/-- All sections are written in a stable order, or those before the one that fails. That one leaves
all files as they are, but for those at the locations that are `torn`. -/
structure WritesInOrder {σ : Type} (fs : FileSystem (StateM σ)) (view : FileView σ)
    (torn : WriteFailure → Section → Location → Prop) (code : GeneratedCode) (dir : Path) (s : σ) :
    Prop where
  order : IsStableOrder code.sections (byOrder code.sections)
  succeeded : ∀ files s', (writeTo fs code dir).run s = (.ok files, s') →
    files = (byOrder code.sections).map (dir.join ·.fileName) ∧
      Written (view.home s) dir (byOrder code.sections) (view.file? s) (view.file? s')
  failed : ∀ e s', (writeTo fs code dir).run s = (.error e, s') →
    ∃ done failing rest middle, byOrder code.sections = done ++ failing :: rest ∧
      FailsAt fs dir done failing e s middle s' ∧
      Written (view.home s) dir done (view.file? s) (view.file? middle) ∧
      ∀ location, ¬torn e failing location → view.file? s' location = view.file? middle location
  unnamed : ∀ location, (∀ t ∈ code.sections, fileOf (view.home s) dir t ≠ location) →
    view.file? ((writeTo fs code dir).run s).2 location = view.file? s location
  named : ∀ t ∈ code.sections, ∀ u ∈ code.sections, IsPlain t.fileName → IsPlain u.fileName →
    (fileOf (view.home s) dir t = fileOf (view.home s) dir u ↔ t.fileName = u.fileName)

section WriteTo

variable {σ : Type} {fs : FileSystem (StateM σ)} {view : FileView σ} (whole : fs.WritesWhole view)
  (code : GeneratedCode) (dir : Path) (s : σ)
include whole

theorem writeTo_unnamed {location : Location}
    (free : ∀ t ∈ code.sections, fileOf (view.home s) dir t ≠ location) :
    view.file? ((writeTo fs code dir).run s).2 location = view.file? s location := by
  have freeSorted : ∀ t ∈ byOrder code.sections, fileOf (view.home s) dir t ≠ location :=
    fun t member => free t (mem_byOrder.mp member)
  rcases ran : (writeTo fs code dir).run s with ⟨e | files, s'⟩
  · obtain ⟨done, failing, rest, middle, split, fails⟩ := exists_failsAt ran
    obtain ⟨written, elsewhere⟩ := fails.written whole
    rw [split] at freeSorted
    obtain ⟨freeDone, freeRest⟩ := List.forall_mem_append.mp freeSorted
    have other : fileOf (view.home s) dir failing ≠ location :=
      freeRest failing List.mem_cons_self
    rw [elsewhere location fun torn => other torn.2, written.others location freeDone]
  · exact (writeSections_ok whole ran).2.2.others location freeSorted

theorem writesInOrder_of_failsAt {torn : WriteFailure → Section → Location → Prop}
    (tears : ∀ {done failing e middle s'}, FailsAt fs dir done failing e s middle s' →
      ∀ location, ¬torn e failing location → view.file? s' location = view.file? middle location) :
    WritesInOrder fs view torn code dir s where
  order := isStableOrder_byOrder code.sections
  succeeded files s' ran := by
    obtain ⟨paths, -, written⟩ := writeSections_ok whole ran
    exact ⟨paths, written⟩
  failed e s' ran := by
    obtain ⟨done, failing, rest, middle, split, fails⟩ := exists_failsAt ran
    exact ⟨done, failing, rest, middle, split, fails, (fails.written whole).1, tears fails⟩
  unnamed _ := writeTo_unnamed whole code dir s
  named _ _ _ _ := fileOf_eq_iff

end WriteTo

end Pipeline

end ForeignBindings
