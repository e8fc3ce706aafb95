import ForeignBindings.CommandLine

/-!
# The program

Runs the command line on the files of the machine.
-/

namespace ForeignBindings.Program

/-- The reason for a failed operation on the files of the machine. -/
def reasonOf : IO.Error → FileError
  | .noFileOrDirectory .. => .notFound
  | .alreadyExists .. => .alreadyExists
  | .inappropriateType _ 20 _ => .notDirectory
  | .inappropriateType _ 21 _ => .isDirectory
  | e => .other (toString e)

/-- Runs an operation and keeps the reason if it fails. -/
def attempt {α : Type} (action : IO α) : IO (Except FileError α) := do
  try return .ok (← action)
  catch e => return .error (reasonOf e)

/-- The files of the machine. -/
def machineFiles : FileSystem IO where
  readText path := do
    match ← attempt (IO.FS.readBinFile path) with
    | .error e => return .error e
    | .ok bytes =>
      match String.fromUTF8? bytes with
      | some text => return .ok text
      | none => return .error .notText
  isDirectory path := do
    match ← attempt (do (← IO.FS.realPath path).isDir) with
    | .ok answer => return answer
    | .error _ => return false
  makeDirectory path := attempt (IO.FS.createDir path)
  writeText path text := attempt (IO.FS.writeFile path text)

end ForeignBindings.Program

def main (arguments : List String) : IO UInt32 := do
  let answer ← ForeignBindings.CommandLine.execute ForeignBindings.Program.machineFiles arguments
  (← IO.getStdout).putStr answer.stdout
  (← IO.getStderr).putStr answer.stderr
  return answer.code.toUInt32
