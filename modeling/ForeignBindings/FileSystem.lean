import ForeignBindings.Path

/-!
# File operations

The operations on files that the pipeline needs, each of which may fail for a reason that the
operating system gives. Directories are made together with the ancestors that they lack.
-/

namespace ForeignBindings

inductive FileError
  | notFound
  | alreadyExists
  | notDirectory
  | isDirectory
  | nameTooLong
  /-- The name holds a zero character. -/
  | invalidName
  /-- The file does not hold text. -/
  | notText
  | other (message : String)
deriving Repr, DecidableEq

/-- The message for a failed file operation. -/
def FileError.message : FileError → String
  | notFound => "No such file or directory (os error 2)"
  | alreadyExists => "File exists (os error 17)"
  | notDirectory => "Not a directory (os error 20)"
  | isDirectory => "Is a directory (os error 21)"
  | nameTooLong => "File name too long (os error 36)"
  | invalidName => "file name contained an unexpected NUL byte"
  | notText => "stream did not contain valid UTF-8"
  | other message => message

structure FileSystem (m : Type → Type) where
  /-- Reads a file as text. -/
  readText : Path → m (Except FileError String)
  /-- Whether a path leads to a directory. -/
  isDirectory : Path → m Bool
  /-- Makes one directory, whose parent must be there. -/
  makeDirectory : Path → m (Except FileError Unit)
  /-- Makes a file hold a text, whether it is there or not. -/
  writeText : Path → String → m (Except FileError Unit)

namespace FileSystem

variable {m : Type → Type} [Monad m]

/-- Whether a failure to make a directory means that it is there. -/
def isThere (fs : FileSystem m) (path : Path) (e : FileError) : m Bool :=
  if e = .alreadyExists then fs.isDirectory path else return false

/-- Makes the first directory of a list whose parent is there, and returns those before it, which
are still to be made, innermost last. The list holds a directory and its ancestors, innermost
first. -/
def makeAncestor (fs : FileSystem m) (pending : List Path) :
    List Path → m (Except FileError (List Path))
  | [] => return .ok pending
  | path :: ancestors => do
    match ← fs.makeDirectory path with
    | .ok () => return .ok pending
    | .error .notFound => fs.makeAncestor (path :: pending) ancestors
    | .error e => if ← fs.isThere path e then return .ok pending else return .error e

/-- Makes directories one after the other, unless they are there. -/
def makeEach (fs : FileSystem m) : List Path → m (Except FileError Unit)
  | [] => return .ok ()
  | path :: rest => do
    match ← fs.makeDirectory path with
    | .ok () => fs.makeEach rest
    | .error e => if ← fs.isThere path e then fs.makeEach rest else return .error e

/-- A path and its ancestors, innermost first, without the empty path. -/
def ancestors (path : Path) : Nat → List Path
  | 0 => []
  | fuel + 1 =>
    if path = "" then []
    else
      path ::
        match path.parent? with
        | some parent => ancestors parent fuel
        | none => []

/-- Makes a directory and the ancestors that it lacks. -/
def makeDirectories (fs : FileSystem m) (path : Path) : m (Except FileError Unit) := do
  match ← fs.makeAncestor [] (ancestors path (path.length + 1)) with
  | .ok pending => fs.makeEach pending
  | .error e => return .error e

end FileSystem

end ForeignBindings
