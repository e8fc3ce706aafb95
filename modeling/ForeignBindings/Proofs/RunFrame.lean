import ForeignBindings.Proofs.FileTree
import ForeignBindings.Proofs.SectionOrder
import ForeignBindings.Proofs.SharedIdentifier

/-!
# What a run changes

Settings and declarations are read, and the sections are generated, before anything is written. So a
run that fails on the way there leaves everything as it was, and every other run changes nothing but
the six files in the directory of the module and the directories that lead there
(`staysInPlace_run`). The name of the module is one name, whatever the namespace is called.
-/

namespace ForeignBindings
open Identifier

/-! ## The files of the sections -/

theorem ident_ne_empty {fallback : String} (nonempty : fallback ≠ "") (raw : String) :
    ident raw fallback ≠ "" := by
  by_cases blank : spelling raw = []
  · rwa [ident_of_blank blank]
  · rw [ident_of_spelling blank]
    intro empty
    have letters := congrArg String.toList empty
    unfold guardKeyword at letters
    split at letters
    · simp at letters
    · split at letters
      · simp at letters
      · exact guardDigit_ne_nil blank (by simpa using letters)

theorem isSingleName_moduleName (scope : String) : IsSingleName (moduleName scope) := by
  have plain : ∀ c ∈ (moduleName scope).toList, IsIdentChar c := by
    have fallback : IsWord "bindings" := isWord_ofList rfl
    exact fun _ => mem_ident fallback.isIdentChar
  have notDot : ∀ c ∈ (moduleName scope).toList, c ≠ '.' := fun c member =>
    (plain c member).ne (by decide)
  refine
    { nonempty := ident_ne_empty (by decide) _
      noSlash := fun slash => (plain '/' slash).ne (by decide) rfl
      notDot := fun same => ?_
      notUp := fun same => ?_ }
  · rw [same] at notDot
    exact notDot '.' (by decide) rfl
  · rw [same] at notDot
    exact notDot '.' (by decide) rfl

theorem isSingleName_file (kind : SectionKind) : IsSingleName (kind.stem ++ ".rs") := by
  cases kind <;> exact ⟨by decide, by decide, by decide, by decide⟩

/-- A failure to load the settings, to load the declarations or to generate. -/
def Failure.IsEarly : Failure → Prop
  | unwritable .. => False
  | _ => True

namespace Pipeline

/-! ## Writing sections -/

/-- The file at a path may be written, and the directories on the way to it may be made. -/
def Allows (home : Location) (files dirs : Location → Prop) (file : Path) : Prop :=
  files (Path.locate home file) ∧
    ∀ names, names <+: file.names.dropLast → dirs (Path.locateNames home file.isAbsolute names)

section Stays

variable {σ : Type} {fs : FileSystem (StateM σ)} {view : FileView σ} {home : Location}
  {files dirs : Location → Prop} (inPlace : fs.ChangesInPlace view)
include inPlace

theorem stays_makeRoom {file : Path} (allowed : ∀ names, names <+: file.names.dropLast →
    dirs (Path.locateNames home file.isAbsolute names)) :
    view.Stays home files dirs (makeRoom fs file) fun _ => True := by
  unfold makeRoom
  cases found : file.parent? with
  | none => exact .pure trivial
  | some parent =>
      obtain ⟨front, same⟩ := Path.names_parent? found
      have allowedParent : ∀ names, names <+: parent.names →
          dirs (Path.locateNames home parent.isAbsolute names) := by
        intro names before
        rw [same]
        exact allowed names (before.trans front)
      refine .bind (FileSystem.stays_makeDirectories inPlace allowedParent) fun result _ => ?_
      split <;> exact .pure trivial

theorem stays_writeSection {dir : Path} {s : Section}
    (allowed : Allows home files dirs (dir.join s.fileName)) :
    view.Stays home files dirs (writeSection fs dir s) fun _ => True := by
  refine .bind (stays_makeRoom inPlace allowed.2) fun room _ => ?_
  split
  · exact .pure trivial
  · refine .bind (FileSystem.stays_writeText inPlace s.content allowed.1) fun written _ => ?_
    split <;> exact .pure trivial

theorem stays_writeSections {dir : Path} {sections : List Section}
    (allowed : ∀ s ∈ sections, Allows home files dirs (dir.join s.fileName)) :
    view.Stays home files dirs (writeSections fs dir sections) fun _ => True := by
  induction sections with
  | nil => exact .pure trivial
  | cons first rest ih =>
      obtain ⟨here, later⟩ := List.forall_mem_cons.mp allowed
      refine .bind (stays_writeSection inPlace here) fun result _ => ?_
      split
      · exact .pure trivial
      · refine .bind (ih later) fun results _ => ?_
        split <;> exact .pure trivial

theorem stays_writeTo {dir : Path} {code : GeneratedCode}
    (allowed : ∀ s ∈ code.sections, Allows home files dirs (dir.join s.fileName)) :
    view.Stays home files dirs (writeTo fs code dir) fun _ => True :=
  stays_writeSections inPlace fun s member => allowed s (mem_byOrder.mp member)

end Stays

/-! ## What a run may change -/

/-- The directory that a run writes below. -/
def outputDir (settingsFile : Path) (output : Option Path) (settings : Settings) : Path :=
  output.getD ((settingsFile.parent?.getD ".").join settings.outputDir)

/-- The files of the six sections in the directory of the module. -/
def IsSectionFile (home : Location) (dir : Path) (scope : String) (location : Location) : Prop :=
  ∃ kind : SectionKind, location = Path.locate home dir ++ [moduleName scope, kind.stem ++ ".rs"]

/-- The directory of the module and the directories on the way to it. -/
def IsModuleAncestor (home : Location) (dir : Path) (scope : String) (location : Location) : Prop :=
  ∃ names, names <+: dir.names ++ [moduleName scope] ∧
    location = Path.locateNames home dir.isAbsolute names

theorem allows_section {tree : List Declaration} {options : Options} {generation : Generation}
    (generated : generate tree options = .ok generation) (home : Location) (dir : Path) :
    ∀ s ∈ generation.code.sections, Allows home (IsSectionFile home dir options.scope)
      (IsModuleAncestor home dir options.scope) (dir.join s.fileName) := by
  obtain ⟨set, -, code⟩ := generate_ok generated
  intro s member
  rw [code] at member
  obtain ⟨kind, -, rfl⟩ := List.mem_map.mp member
  have single : ∀ part ∈ [moduleName options.scope, kind.stem ++ ".rs"], IsSingleName part := by
    simp [isSingleName_moduleName, isSingleName_file]
  have nonempty := List.cons_ne_nil (moduleName options.scope) [kind.stem ++ ".rs"]
  have name (mapper : TypeMapper) (set : DeclarationSet) (callbacks : List Callback) :
      (emitSection mapper options set callbacks kind).fileName =
        "/".intercalate [moduleName options.scope, kind.stem ++ ".rs"] := by
    simp [emitSection, String.append_assoc]
  have relative := Path.isAbsolute_intercalate single nonempty
  rw [name]
  refine ⟨⟨kind, Path.locate_join_intercalate single nonempty _ _⟩, fun before front =>
    ⟨before, ?_, ?_⟩⟩
  · have last : (dir.names ++ [moduleName options.scope, kind.stem ++ ".rs"]).dropLast =
        dir.names ++ [moduleName options.scope] := by simp
    rwa [Path.names_join relative, Path.names_intercalate single, last] at front
  · rw [Path.isAbsolute_join relative]

/-! ## The stages of a run -/

section Stages

variable {σ ε α β : Type} {x : ExceptT ε (StateM σ) α} {f : α → ExceptT ε (StateM σ) β} {s s' : σ}

theorem run_lift_bind (y : StateM σ α) (s : σ) :
    ((ExceptT.lift y : ExceptT ε (StateM σ) α) >>= f).run.run s =
      (f (y.run s).1).run.run (y.run s).2 := rfl

theorem run_bind_of_ok {a : α} (ran : x.run.run s = (.ok a, s')) :
    (x >>= f).run.run s = (f a).run.run s' := by
  have bound : (x >>= f).run.run s = (ExceptT.bindCont f (x.run.run s).1).run (x.run.run s).2 := rfl
  rw [bound, ran]
  rfl

theorem run_bind_of_error {e : ε} (ran : x.run.run s = (.error e, s')) :
    (x >>= f).run.run s = (.error e, s') := by
  have bound : (x >>= f).run.run s = (ExceptT.bindCont f (x.run.run s).1).run (x.run.run s).2 := rfl
  rw [bound, ran]
  rfl

end Stages

variable {σ α β : Type} {fs : FileSystem (StateM σ)} {view : FileView σ}

/-- All that a run does before it writes. -/
def prepare (fs : FileSystem (StateM σ)) (settingsFile : Path) :
    ExceptT Failure (StateM σ) (Settings × Generation) := do
  let settings ← loadSettings fs settingsFile
  let generation ← generateFromSettings fs settings (settingsFile.parent?.getD ".")
  return (settings, generation)

/-- Writes what was generated. -/
def deliver (fs : FileSystem (StateM σ)) (settingsFile : Path) (output : Option Path)
    (prepared : Settings × Generation) : ExceptT Failure (StateM σ) Path := do
  let dir := outputDir settingsFile output prepared.1
  match ← ExceptT.lift (writeTo fs prepared.2.code dir) with
  | .error e => throw (.unwritable dir e)
  | .ok _ => return dir

theorem run_eq_prepare_bind (settingsFile : Path) (output : Option Path) :
    run fs settingsFile output = prepare fs settingsFile >>= deliver fs settingsFile output := by
  simp only [prepare, bind_assoc, pure_bind]
  rfl

/-- A stage changes nothing. It fails early, or its result is as `post` says. -/
def OnlyReads (view : FileView σ) (stage : ExceptT Failure (StateM σ) α) (post : α → Prop) : Prop :=
  ∀ s, view.Untouched s (stage.run.run s).2 ∧
    match (stage.run.run s).1 with
    | .error e => e.IsEarly
    | .ok a => post a

variable {post : α → Prop} {final : β → Prop}

theorem OnlyReads.pure {a : α} (holds : post a) :
    OnlyReads view (Pure.pure a : ExceptT Failure (StateM σ) α) post :=
  fun s => ⟨.refl s, holds⟩

theorem OnlyReads.throw {e : Failure} (early : e.IsEarly) :
    OnlyReads view (throw e : ExceptT Failure (StateM σ) α) post :=
  fun s => ⟨.refl s, early⟩

theorem OnlyReads.bind {stage : ExceptT Failure (StateM σ) α}
    {next : α → ExceptT Failure (StateM σ) β} (first : OnlyReads view stage post)
    (rest : ∀ a, post a → OnlyReads view (next a) final) :
    OnlyReads view (stage >>= next) final := by
  intro s
  obtain ⟨untouched, holds⟩ := first s
  rcases ran : stage.run.run s with ⟨e | a, s'⟩
  · rw [ran] at untouched holds
    rw [run_bind_of_error ran]
    exact ⟨untouched, holds⟩
  · rw [ran] at untouched holds
    rw [run_bind_of_ok ran]
    obtain ⟨untouched', holds'⟩ := rest a holds s'
    exact ⟨untouched.trans untouched', holds'⟩

section Loading

variable (inPlace : fs.ChangesInPlace view)
include inPlace

theorem onlyReads_readText (file : Path) :
    OnlyReads view (ExceptT.lift (fs.readText file) : ExceptT Failure (StateM σ) _) fun _ => True :=
  fun s => ⟨inPlace.readText file s, trivial⟩

theorem onlyReads_loadSettings (file : Path) :
    OnlyReads view (loadSettings fs file) fun _ => True := by
  refine .bind (onlyReads_readText inPlace file) fun reply _ => ?_
  split
  · exact .throw trivial
  · split
    · exact .throw trivial
    · exact .pure trivial

theorem onlyReads_loadDeclarations (file : Path) :
    OnlyReads view (loadDeclarations fs file) fun _ => True := by
  refine .bind (onlyReads_readText inPlace file) fun reply _ => ?_
  split
  · exact .throw trivial
  · split
    · exact .throw trivial
    · exact .pure trivial

theorem onlyReads_generateFromSettings (settings : Settings) (base : Path) :
    OnlyReads view (generateFromSettings fs settings base) fun generation =>
      ∃ tree, generate tree settings.options = .ok generation := by
  refine .bind (onlyReads_loadDeclarations inPlace _) fun tree _ => ?_
  cases generated : generate tree settings.options with
  | error e => exact .throw trivial
  | ok generation => exact .pure ⟨tree, generated⟩

theorem onlyReads_prepare (settingsFile : Path) :
    OnlyReads view (prepare fs settingsFile) fun prepared =>
      ∃ tree, generate tree prepared.1.options = .ok prepared.2 := by
  refine .bind (onlyReads_loadSettings inPlace settingsFile) fun settings _ => ?_
  exact .bind (onlyReads_generateFromSettings inPlace settings _) fun generation generated =>
    .pure generated

end Loading

/-- The sections of a generation are written below the output directory, and nothing else is. -/
theorem touches_deliver (inPlace : fs.ChangesInPlace view) (settingsFile : Path)
    (output : Option Path) {tree : List Declaration} {settings : Settings} {generation : Generation}
    (generated : generate tree settings.options = .ok generation) (s : σ) :
    view.Touches
      (IsSectionFile (view.home s) (outputDir settingsFile output settings) settings.scope)
      (IsModuleAncestor (view.home s) (outputDir settingsFile output settings) settings.scope)
      s ((deliver fs settingsFile output (settings, generation)).run.run s).2 := by
  have allowed := allows_section generated (view.home s) (outputDir settingsFile output settings)
  obtain ⟨touches, -⟩ := stays_writeTo inPlace allowed s rfl
  simp only [deliver, run_lift_bind]
  split <;> exact touches

theorem result_deliver (fs : FileSystem (StateM σ)) (settingsFile : Path) (output : Option Path)
    (prepared : Settings × Generation) (s : σ) :
    ((deliver fs settingsFile output prepared).run.run s).1 =
        .ok (outputDir settingsFile output prepared.1) ∨
      ∃ cause, ((deliver fs settingsFile output prepared).run.run s).1 =
        .error (.unwritable (outputDir settingsFile output prepared.1) cause) := by
  simp only [deliver, run_lift_bind]
  split
  · exact .inr ⟨_, rfl⟩
  · exact .inl rfl

/-! ## What comes of a run -/

section Run

variable {settingsFile : Path} {output : Option Path} {before s : σ} {e : Failure}
  {prepared : Settings × Generation}

theorem run_of_prepare_error (failed : (prepare fs settingsFile).run.run before = (.error e, s)) :
    (run fs settingsFile output).run.run before = (.error e, s) := by
  rw [run_eq_prepare_bind, run_bind_of_error failed]

theorem run_of_prepare_ok (made : (prepare fs settingsFile).run.run before = (.ok prepared, s)) :
    (run fs settingsFile output).run.run before =
      (deliver fs settingsFile output prepared).run.run s := by
  rw [run_eq_prepare_bind, run_bind_of_ok made]

/-- The failures of what comes before the writing are the early failures of the run. -/
theorem prepare_eq_error_iff (inPlace : fs.ChangesInPlace view) :
    ((prepare fs settingsFile).run.run before).1 = .error e ↔
      ((run fs settingsFile output).run.run before).1 = .error e ∧ e.IsEarly := by
  obtain ⟨-, holds⟩ := onlyReads_prepare inPlace settingsFile before
  rcases ran : (prepare fs settingsFile).run.run before with ⟨e' | prepared, s⟩
  · rw [ran] at holds
    rw [run_of_prepare_error ran]
    constructor
    · rintro ⟨⟩
      exact ⟨rfl, holds⟩
    · rintro ⟨⟨⟩, -⟩
      rfl
  · rw [run_of_prepare_ok ran]
    refine ⟨nofun, fun ⟨failed, early⟩ => ?_⟩
    rcases result_deliver fs settingsFile output prepared s with written | ⟨_, notWritten⟩
    · rw [written] at failed
      cases failed
    · rw [notWritten] at failed
      cases failed
      exact early.elim

theorem untouched_of_prepare_error (inPlace : fs.ChangesInPlace view)
    (failed : ((prepare fs settingsFile).run.run before).1 = .error e) :
    view.Untouched before ((run fs settingsFile output).run.run before).2 := by
  obtain ⟨untouched, -⟩ := onlyReads_prepare inPlace settingsFile before
  rcases ran : (prepare fs settingsFile).run.run before with ⟨e' | prepared, s⟩
  · rw [ran] at untouched
    rwa [run_of_prepare_error ran]
  · rw [ran] at failed
    cases failed

theorem touches_of_prepare_ok (inPlace : fs.ChangesInPlace view)
    (made : ((prepare fs settingsFile).run.run before).1 = .ok prepared) :
    view.Touches
      (IsSectionFile (view.home before) (outputDir settingsFile output prepared.1) prepared.1.scope)
      (IsModuleAncestor (view.home before) (outputDir settingsFile output prepared.1)
        prepared.1.scope)
      before ((run fs settingsFile output).run.run before).2 := by
  obtain ⟨untouched, holds⟩ := onlyReads_prepare inPlace settingsFile before
  rcases ran : (prepare fs settingsFile).run.run before with ⟨e' | prepared', s⟩
  · rw [ran] at made
    cases made
  · rw [ran] at made untouched holds
    cases made
    obtain ⟨tree, generated⟩ := holds
    have touches := touches_deliver inPlace settingsFile output generated s
    rw [untouched.home] at touches
    rw [run_of_prepare_ok ran]
    exact untouched.touches.trans touches

theorem prepare_of_run_ok {dir : Path}
    (returned : ((run fs settingsFile output).run.run before).1 = .ok dir) :
    ∃ prepared, ((prepare fs settingsFile).run.run before).1 = .ok prepared ∧
      dir = outputDir settingsFile output prepared.1 := by
  rcases ran : (prepare fs settingsFile).run.run before with ⟨e' | prepared, s⟩
  · rw [run_of_prepare_error ran] at returned
    cases returned
  · rw [run_of_prepare_ok ran] at returned
    refine ⟨prepared, rfl, ?_⟩
    rcases result_deliver fs settingsFile output prepared s with written | ⟨_, notWritten⟩
    · rw [written] at returned
      cases returned
      rfl
    · rw [notWritten] at returned
      cases returned

end Run

/-! ## A run on a tree of files -/

theorem run_readText_bind {tree : FileTree} {file : Path} {text : String}
    (read : tree.readText file = .ok text)
    (next : Except FileError String → ExceptT Failure (StateM FileTree) α) :
    ((ExceptT.lift (FileTree.fileSystem.readText file) : ExceptT Failure _ _) >>= next).run.run
        tree = (next (.ok text)).run.run tree := by
  rw [run_lift_bind, ← read]
  rfl

/-- Settings with a namespace that is no name. -/
def sampleSettings : String := "namespace = 'A/../é'\nlibrary = 'a'\ndeclarations = 'api.toml'\n"

/-- A settings file beside an empty declaration file. -/
def sampleTree : FileTree where
  root := .directory [("bnd.toml", .file sampleSettings.toUTF8), ("api.toml", .file "".toUTF8)]
  workingDir := []

theorem prepare_sampleTree : ∃ generation,
    ((prepare FileTree.fileSystem "bnd.toml").run.run sampleTree).1 =
      .ok (⟨"A/../é", "a", .cdecl, "api.toml", "generated"⟩, generation) := by
  have settings : sampleTree.readText "bnd.toml" = .ok sampleSettings :=
    FileTree.readText_of_find rfl
  have declarations : sampleTree.readText "api.toml" = .ok "" := FileTree.readText_of_find rfl
  have parsed : Settings.parse sampleSettings =
      .ok ⟨"A/../é", "a", .cdecl, "api.toml", "generated"⟩ := by decide +kernel
  have empty : Declaration.parseFile "" = .ok [] := rfl
  have path : Path.resolve "api.toml" (Option.getD (Path.parent? "bnd.toml") ".") = "api.toml" := by
    decide +kernel
  obtain ⟨generation, generated⟩ :
      ∃ generation, generate [] ⟨"A/../é", "a", .cdecl⟩ = .ok generation := ⟨_, rfl⟩
  refine ⟨generation, ?_⟩
  simp only [prepare, loadSettings, generateFromSettings, loadDeclarations, bind_assoc]
  rw [run_readText_bind settings]
  simp only [parsed, pure_bind, path]
  rw [run_readText_bind declarations]
  simp only [empty, pure_bind, Settings.options, generated]
  rfl

/-! ## The statement -/

/-- What a run from the state `before` changes. -/
structure StaysInPlace (fs : FileSystem (StateM σ)) (view : FileView σ) (settingsFile : Path)
    (output : Option Path) (before : σ) : Prop where
  early : ∀ e, ((prepare fs settingsFile).run.run before).1 = .error e ↔
    ((run fs settingsFile output).run.run before).1 = .error e ∧ e.IsEarly
  untouched : ∀ e, ((prepare fs settingsFile).run.run before).1 = .error e →
    view.Untouched before ((run fs settingsFile output).run.run before).2
  confined : ∀ prepared, ((prepare fs settingsFile).run.run before).1 = .ok prepared →
    view.Touches
      (IsSectionFile (view.home before) (outputDir settingsFile output prepared.1) prepared.1.scope)
      (IsModuleAncestor (view.home before) (outputDir settingsFile output prepared.1)
        prepared.1.scope)
      before ((run fs settingsFile output).run.run before).2
  returned : ∀ dir, ((run fs settingsFile output).run.run before).1 = .ok dir →
    ∃ prepared, ((prepare fs settingsFile).run.run before).1 = .ok prepared ∧
      dir = outputDir settingsFile output prepared.1
  module : ∀ scope, IsSingleName (moduleName scope)

theorem staysInPlace_run (inPlace : fs.ChangesInPlace view) (settingsFile : Path)
    (output : Option Path) (before : σ) : StaysInPlace fs view settingsFile output before where
  early _ := prepare_eq_error_iff inPlace
  untouched _ := untouched_of_prepare_error inPlace
  confined _ := touches_of_prepare_ok inPlace
  returned _ := prepare_of_run_ok
  module := isSingleName_moduleName

theorem staysInPlace_run_sampleTree :
    FileTree.fileSystem.ChangesInPlace FileTree.view ∧
      (∃ generation, ((prepare FileTree.fileSystem "bnd.toml").run.run sampleTree).1 =
        .ok (⟨"A/../é", "a", .cdecl, "api.toml", "generated"⟩, generation)) ∧
      StaysInPlace FileTree.fileSystem FileTree.view "bnd.toml" none sampleTree :=
  ⟨FileTree.changesInPlace, prepare_sampleTree, staysInPlace_run FileTree.changesInPlace _ _ _⟩

end Pipeline

end ForeignBindings
