import ForeignBindings.FileSystem
import ForeignBindings.Generate
import ForeignBindings.Settings

/-!
# The pipeline

From a settings file to written sections: settings and declarations are read, the sections are
generated, and each is written below the output directory. Nothing is written before everything is
generated. The pipeline runs on any file operations.
-/

namespace ForeignBindings
open Document

inductive WriteFailure
  | creating (directory : Path) (cause : FileError)
  | writing (file : Path) (cause : FileError)
deriving Repr, DecidableEq

/-- The messages for a failure to write, the outermost first. -/
def WriteFailure.chain : WriteFailure → List String
  | creating directory cause => ["creating " ++ directory, cause.message]
  | writing file cause => ["writing " ++ file, cause.message]

inductive Failure
  | unreadableSettings (file : Path) (cause : FileError)
  | invalidSettings (file : Path) (cause : DocumentError)
  | unreadableDeclarations (file : Path) (cause : FileError)
  | invalidDeclarations (file : Path) (cause : DocumentError)
  | misplacedMethod (cause : MisplacedMethod)
  | unwritable (directory : Path) (cause : WriteFailure)
deriving Repr, DecidableEq

/-- The messages for a failure, the outermost first. -/
def Failure.chain : Failure → List String
  | unreadableSettings file cause =>
    ["loading config from " ++ file, s!"failed to read config file {file}: {cause.message}"]
  | invalidSettings file cause =>
    ["loading config from " ++ file, s!"failed to parse config file {file}: {cause.message}"]
  | unreadableDeclarations file cause =>
    ["loading declarations from " ++ file,
      s!"failed to read declaration file {file}: {cause.message}"]
  | invalidDeclarations file cause =>
    ["loading declarations from " ++ file, s!"{file}: {declarationFileMessage cause}"]
  | misplacedMethod cause => [cause.message]
  | unwritable directory cause => ("writing sections to " ++ directory) :: cause.chain

namespace Pipeline

variable {m : Type → Type} [Monad m]

def loadSettings (fs : FileSystem m) (file : Path) : ExceptT Failure m Settings := do
  match ← ExceptT.lift (fs.readText file) with
  | .error e => throw (.unreadableSettings file e)
  | .ok text =>
    match Settings.parse text with
    | .error e => throw (.invalidSettings file e)
    | .ok settings => return settings

def loadDeclarations (fs : FileSystem m) (file : Path) : ExceptT Failure m (List Declaration) := do
  match ← ExceptT.lift (fs.readText file) with
  | .error e => throw (.unreadableDeclarations file e)
  | .ok text =>
    match Declaration.parseFile text with
    | .error e => throw (.invalidDeclarations file e)
    | .ok tree => return tree

/-- Generates the sections that some settings ask for. -/
def generateFromSettings (fs : FileSystem m) (settings : Settings) (base : Path) :
    ExceptT Failure m Generation := do
  let tree ← loadDeclarations fs (settings.declarations.resolve base)
  match generate tree settings.options with
  | .error e => throw (.misplacedMethod e)
  | .ok generation => return generation

def makeRoom (fs : FileSystem m) (file : Path) : m (Except WriteFailure Unit) :=
  match file.parent? with
  | none => return .ok ()
  | some parent => do
    match ← fs.makeDirectories parent with
    | .ok () => return .ok ()
    | .error e => return .error (.creating parent e)

/-- Writes one section below a directory, and returns the path of its file. -/
def writeSection (fs : FileSystem m) (dir : Path) (s : Section) : m (Except WriteFailure Path) := do
  let file := dir.join s.fileName
  match ← makeRoom fs file with
  | .error e => return .error e
  | .ok () =>
    match ← fs.writeText file s.content with
    | .ok () => return .ok file
    | .error e => return .error (.writing file e)

/-- Writes sections one after the other, up to the first failure. -/
def writeSections (fs : FileSystem m) (dir : Path) :
    List Section → m (Except WriteFailure (List Path))
  | [] => return .ok []
  | first :: rest => do
    match ← writeSection fs dir first with
    | .error e => return .error e
    | .ok file =>
      match ← writeSections fs dir rest with
      | .error e => return .error e
      | .ok files => return .ok (file :: files)

/-- Puts a section before the first one with a larger order. -/
def insertByOrder (s : Section) : List Section → List Section
  | [] => [s]
  | first :: rest =>
    if s.order < first.order then s :: first :: rest else first :: insertByOrder s rest

/-- Sections by their order; those of equal order stay as they stand. -/
def byOrder (sections : List Section) : List Section :=
  sections.foldl (fun sorted s => insertByOrder s sorted) []

/-- Writes all sections below a directory in their order, and returns the paths of the files. -/
def writeTo (fs : FileSystem m) (code : GeneratedCode) (dir : Path) :
    m (Except WriteFailure (List Path)) :=
  writeSections fs dir (byOrder code.sections)

/-- Runs the whole pipeline, and returns the directory that the sections are written to. Paths in
the settings start from the directory of the settings file; an output directory given besides them
does not. -/
def run (fs : FileSystem m) (settingsFile : Path) (output : Option Path) :
    ExceptT Failure m Path := do
  let settings ← loadSettings fs settingsFile
  let base := settingsFile.parent?.getD "."
  let generation ← generateFromSettings fs settings base
  let dir := output.getD (base.join settings.outputDir)
  match ← ExceptT.lift (writeTo fs generation.code dir) with
  | .error e => throw (.unwritable dir e)
  | .ok _ => return dir

end Pipeline

end ForeignBindings
