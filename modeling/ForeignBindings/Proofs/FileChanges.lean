import ForeignBindings.Proofs.PathNames

/-!
# What file operations change

A file system is seen through what stands at its locations. `FileView.Touches` bounds what may have
changed between two states, and `FileSystem.ChangesInPlace` says that every operation changes the
location that its path leads to and no other, as it does without links. What a sequence of
operations changes is then read off its steps (`Stays.bind`). A tree of files is such a file system
(`FileTree.changesInPlace`).
-/

namespace ForeignBindings

/-- What stands at a location. -/
inductive Stand
  | file (content : ByteArray)
  | directory

/-- What can be seen of a state. -/
structure FileView (σ : Type) where
  stand? : σ → Location → Option Stand
  /-- The working directory. -/
  home : σ → Location

namespace FileView

variable {σ α β : Type}

/-- The only files that were created or changed are at `files`, and the only directories that were
created are at `dirs`. Nothing was removed. -/
structure Touches (view : FileView σ) (files dirs : Location → Prop) (before after : σ) : Prop where
  home : view.home after = view.home before
  stands : ∀ location, view.stand? after location = view.stand? before location ∨
    (files location ∧ view.stand? before location ≠ some .directory ∧
      ∃ content, view.stand? after location = some (.file content)) ∨
    (dirs location ∧ view.stand? before location = none ∧
      view.stand? after location = some .directory)

/-- Nothing was created or changed. -/
def Untouched (view : FileView σ) : σ → σ → Prop := view.Touches (fun _ => False) (fun _ => False)

variable {view : FileView σ} {files dirs files' dirs' : Location → Prop} {s s' s'' : σ}

theorem Touches.refl (s : σ) : view.Touches files dirs s s := ⟨rfl, fun _ => .inl rfl⟩

theorem Touches.mono (touches : view.Touches files dirs s s')
    (moreFiles : ∀ location, files location → files' location)
    (moreDirs : ∀ location, dirs location → dirs' location) : view.Touches files' dirs' s s' := by
  refine ⟨touches.home, fun location => ?_⟩
  rcases touches.stands location with same | ⟨inFiles, rest⟩ | ⟨inDirs, rest⟩
  · exact .inl same
  · exact .inr (.inl ⟨moreFiles location inFiles, rest⟩)
  · exact .inr (.inr ⟨moreDirs location inDirs, rest⟩)

theorem Touches.trans (first : view.Touches files dirs s s')
    (second : view.Touches files dirs s' s'') : view.Touches files dirs s s'' := by
  refine ⟨second.home.trans first.home, fun location => ?_⟩
  rcases second.stands location with same | ⟨inFiles, noDirectory, written⟩ | ⟨inDirs, absent, made⟩
  · rw [same]
    exact first.stands location
  · refine .inr (.inl ⟨inFiles, fun directory => ?_, written⟩)
    rcases first.stands location with same | ⟨-, notThere, -⟩ | ⟨-, absent, -⟩
    · exact noDirectory (same.trans directory)
    · exact notThere directory
    · rw [absent] at directory
      cases directory
  · rcases first.stands location with same | ⟨-, -, content, written⟩ | ⟨-, -, made'⟩
    · exact .inr (.inr ⟨inDirs, same ▸ absent, made⟩)
    · rw [absent] at written
      cases written
    · rw [absent] at made'
      cases made'

theorem Untouched.touches (untouched : view.Untouched s s') : view.Touches files dirs s s' :=
  untouched.mono (fun _ => False.elim) (fun _ => False.elim)

/-! ## Steps that stay in place -/

/-- From every state with the working directory `home`, a step touches the given locations only, and
its result is as `post` says. -/
def Stays (view : FileView σ) (home : Location) (files dirs : Location → Prop) (step : StateM σ α)
    (post : α → Prop) : Prop :=
  ∀ s, view.home s = home → view.Touches files dirs s (step.run s).2 ∧ post (step.run s).1

variable {home : Location} {step : StateM σ α} {next : α → StateM σ β} {post : α → Prop}
  {final : β → Prop}

theorem Stays.pure {a : α} (holds : post a) :
    view.Stays home files dirs (Pure.pure a : StateM σ α) post :=
  fun s _ => ⟨.refl s, holds⟩

theorem Stays.bind (first : view.Stays home files dirs step post)
    (rest : ∀ a, post a → view.Stays home files dirs (next a) final) :
    view.Stays home files dirs (step >>= next) final := by
  intro s same
  obtain ⟨touches, holds⟩ := first s same
  obtain ⟨touches', holds'⟩ := rest _ holds _ (touches.home.trans same)
  exact ⟨touches.trans touches', holds'⟩

end FileView

namespace FileSystem

variable {σ : Type} {fs : FileSystem (StateM σ)} {view : FileView σ}

/-- Every operation changes what its path leads to and nothing else: reading changes nothing, a
directory is made only where nothing stands, and a file is not written in place of a directory. -/
structure ChangesInPlace (fs : FileSystem (StateM σ)) (view : FileView σ) : Prop where
  readText : ∀ path s, view.Untouched s ((fs.readText path).run s).2
  isDirectory : ∀ path s, view.Untouched s ((fs.isDirectory path).run s).2
  makeDirectory : ∀ path s, view.Touches (fun _ => False)
    (· = Path.locate (view.home s) path) s ((fs.makeDirectory path).run s).2
  writeText : ∀ path text s, view.Touches (· = Path.locate (view.home s) path)
    (fun _ => False) s ((fs.writeText path text).run s).2

/-! ## Making directories -/

section Stays

variable {home : Location} {files dirs : Location → Prop} (inPlace : fs.ChangesInPlace view)
include inPlace

theorem stays_makeDirectory {path : Path} (allowed : dirs (Path.locate home path)) :
    view.Stays home files dirs (fs.makeDirectory path) fun _ => True := by
  rintro s rfl
  refine ⟨(inPlace.makeDirectory path s).mono (fun _ => False.elim) ?_, trivial⟩
  rintro location rfl
  exact allowed

theorem stays_writeText {path : Path} (text : String) (allowed : files (Path.locate home path)) :
    view.Stays home files dirs (fs.writeText path text) fun _ => True := by
  rintro s rfl
  refine ⟨(inPlace.writeText path text s).mono ?_ (fun _ => False.elim), trivial⟩
  rintro location rfl
  exact allowed

theorem stays_isThere (path : Path) (e : FileError) :
    view.Stays home files dirs (fs.isThere path e) fun _ => True := by
  unfold isThere
  split
  · exact fun s _ => ⟨(inPlace.isDirectory path s).touches, trivial⟩
  · exact .pure trivial

theorem stays_makeAncestor {pending ancestors : List Path}
    (allowedPending : ∀ path ∈ pending, dirs (Path.locate home path))
    (allowed : ∀ path ∈ ancestors, dirs (Path.locate home path)) :
    view.Stays home files dirs (fs.makeAncestor pending ancestors) fun result =>
      ∀ rest, result = .ok rest → ∀ path ∈ rest, dirs (Path.locate home path) := by
  have found : ∀ rest, (.ok pending : Except FileError (List Path)) = .ok rest →
      ∀ path ∈ rest, dirs (Path.locate home path) := by
    rintro rest ⟨⟩
    exact allowedPending
  induction ancestors generalizing pending with
  | nil => exact .pure found
  | cons path ancestors ih =>
      obtain ⟨here, above⟩ := List.forall_mem_cons.mp allowed
      refine .bind (stays_makeDirectory inPlace here) fun result _ => ?_
      split
      · exact .pure found
      · have more : ∀ path' ∈ path :: pending, dirs (Path.locate home path') :=
          List.forall_mem_cons.mpr ⟨here, allowedPending⟩
        refine ih more above ?_
        rintro rest ⟨⟩
        exact more
      · refine .bind (stays_isThere inPlace path _) fun isThere _ => ?_
        split
        · exact .pure found
        · exact .pure fun rest failed => nomatch failed

theorem stays_makeEach {paths : List Path}
    (allowed : ∀ path ∈ paths, dirs (Path.locate home path)) :
    view.Stays home files dirs (fs.makeEach paths) fun _ => True := by
  induction paths with
  | nil => exact .pure trivial
  | cons path paths ih =>
      obtain ⟨here, rest⟩ := List.forall_mem_cons.mp allowed
      refine .bind (stays_makeDirectory inPlace here) fun result _ => ?_
      split
      · exact ih rest
      · refine .bind (stays_isThere inPlace path _) fun isThere _ => ?_
        split
        · exact ih rest
        · exact .pure trivial

/-- Making a directory with its ancestors makes only directories at the first names of its path. -/
theorem stays_makeDirectories {path : Path} (allowed : ∀ names, names <+: path.names →
    dirs (Path.locateNames home path.isAbsolute names)) :
    view.Stays home files dirs (fs.makeDirectories path) fun _ => True := by
  have allowedAncestors : ∀ ancestor ∈ ancestors path (path.length + 1),
      dirs (Path.locate home ancestor) := by
    intro ancestor member
    obtain ⟨front, same⟩ := Path.names_ancestors member
    rw [Path.locate, same]
    exact allowed _ front
  refine .bind (stays_makeAncestor inPlace (List.forall_mem_nil _) allowedAncestors) ?_
  intro result pending
  split
  · exact stays_makeEach inPlace (pending _ rfl)
  · exact .pure trivial

end Stays

end FileSystem

end ForeignBindings
