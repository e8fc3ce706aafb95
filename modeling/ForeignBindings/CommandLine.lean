import ForeignBindings.Pipeline

/-!
# The command line

The program takes an optional settings file and an optional output directory. It prints the
directory that it wrote to, or the reasons why it failed, each below the one that it caused.
-/

namespace ForeignBindings.CommandLine

structure Arguments where
  settingsFile : Option Path := none
  output : Option Path := none
deriving Repr, DecidableEq

inductive Command
  | run (settingsFile : Path) (output : Option Path)
  | showVersion
  | showHelp
deriving Repr, DecidableEq

/-- The command line does not follow the rules. -/
inductive UsageError
  | unexpectedArgument (argument : String)
  | repeatedOutput
  | missingValue (option : String)
deriving Repr, DecidableEq

/-- The message for a command line that does not follow the rules. -/
def UsageError.message : UsageError → String
  | unexpectedArgument argument => s!"unexpected argument '{argument}' found"
  | repeatedOutput =>
    "the argument '--output <OUTPUT>' cannot be used multiple times"
  | missingValue option => s!"a value is required for '{option}' but none was supplied"

def outputName : String := "--output <OUTPUT>"

def takeOutput (arguments : Arguments) (dir : String) : Except UsageError Arguments :=
  if dir = "" then .error (.missingValue outputName)
  else if arguments.output.isSome then .error .repeatedOutput
  else .ok { arguments with output := some dir }

def takeFile (arguments : Arguments) (file : String) : Except UsageError Arguments :=
  if file = "" then .error (.missingValue "[CONFIG]")
  else if arguments.settingsFile.isSome then .error (.unexpectedArgument file)
  else .ok { arguments with settingsFile := some file }

/-- The settings file that is read when none is named. -/
def defaultFile : Path := "bnd-layered.toml"

def Arguments.command (arguments : Arguments) : Command :=
  .run (arguments.settingsFile.getD defaultFile) arguments.output

/-- What follows the text `start` at the front of an argument. -/
def after? (start argument : String) : Option String :=
  (start.toList.isPrefixOf? argument.toList).map String.ofList

inductive OptionRead
  | version
  | help
  /-- The output directory is the next argument. -/
  | outputNext
  | output (dir : String)
  | wrong (e : UsageError)
deriving Repr, DecidableEq

/-- Reads the short option at the front of an argument without its dash. A flag takes effect at
once, so what stands after it does not count. -/
def readShort : List Char → OptionRead
  | 'V' :: _ => .version
  | 'h' :: _ => .help
  | ['o'] => .outputNext
  | 'o' :: '=' :: dir => .output (String.ofList dir)
  | 'o' :: dir => .output (String.ofList dir)
  | cs => .wrong (.unexpectedArgument (String.ofList ('-' :: cs)))

/-- Reads an option other than the long flags. -/
def optionOf (argument : String) : OptionRead :=
  if argument = "--output" then .outputNext
  else
    match after? "--output=" argument with
    | some dir => .output dir
    | none =>
      if (after? "--" argument).isSome then .wrong (.unexpectedArgument argument)
      else readShort (argument.toList.drop 1)

/-- Reads arguments after the separator, none of which is an option. -/
def readFiles (arguments : Arguments) : List String → Except UsageError Command
  | [] => .ok arguments.command
  | file :: rest => do readFiles (← takeFile arguments file) rest

/-- Whether an argument reads as an option. A single dash does not. -/
def isOption (argument : String) : Bool :=
  match argument.toList with
  | '-' :: _ :: _ => true
  | _ => false

/-- Takes an output directory that is an argument of its own. -/
def takeNext (arguments : Arguments) (dir : String) : Except UsageError Arguments :=
  if isOption dir then .error (.missingValue outputName) else takeOutput arguments dir

/-- Reads arguments one after the other; the first fault counts. -/
def readArguments (arguments : Arguments) : List String → Except UsageError Command
  | [] => .ok arguments.command
  | argument :: rest =>
    if !isOption argument then do readArguments (← takeFile arguments argument) rest
    else if argument = "--" then readFiles arguments rest
    else if argument = "--version" then .ok .showVersion
    else if argument = "--help" then .ok .showHelp
    else
      match optionOf argument with
      | .version => .ok .showVersion
      | .help => .ok .showHelp
      | .output dir => do readArguments (← takeOutput arguments dir) rest
      | .outputNext =>
        match rest with
        | dir :: more => do readArguments (← takeNext arguments dir) more
        | [] => .error (.missingValue outputName)
      | .wrong e => .error e

/-! ## Answers -/

/-- What the program leaves behind: its exit code and what it has written to the two streams. -/
structure Answer where
  code : UInt8
  stdout : String
  stderr : String
deriving Repr, DecidableEq

/-- A text behind a lead. The lines after its first are indented by as much as the lead takes. -/
def hanging (lead text : String) : String :=
  let margin := '\n' :: List.replicate lead.length ' '
  lead ++ String.ofList (margin.intercalate (text.toList.splitOnP (· == '\n')))

/-- The causes of a failure, each from a line of its own on, and numbered if there are several. -/
def causeLines (causes : List String) : List String :=
  match causes with
  | [cause] => [hanging "    " cause]
  | _ => causes.mapIdx fun i cause => hanging s!"    {i}: " cause

def showFailure (failure : Failure) : String :=
  match failure.chain with
  | [] => "Error: \n"
  | [message] => s!"Error: {message}\n"
  | message :: causes =>
    s!"Error: {message}\n\nCaused by:\n" ++ Text.unlines (causeLines causes)

def answerTo : Except Failure Path → Answer
  | .ok dir => ⟨0, dir ++ "\n", ""⟩
  | .error failure => ⟨1, "", showFailure failure⟩

def version : String := "bnd-layered 0.1.0\n"

def help : String :=
  Text.unlines
    ["Usage: bnd-layered [OPTIONS] [CONFIG]",
      "",
      "Arguments:",
      "  [CONFIG]  Generator config naming the namespace, native library and declaration " ++
        "tree file [default: bnd-layered.toml]",
      "",
      "Options:",
      "  -o, --output <OUTPUT>  Directory the module directory is written into (overrides " ++
        "output_dir from the config)",
      "  -h, --help             Print help",
      "  -V, --version          Print version"]

/-- Runs the program on some file operations. -/
def execute {m : Type → Type} [Monad m] (fs : FileSystem m) (arguments : List String) : m Answer :=
  match readArguments {} arguments with
  | .error e => return ⟨2, "", s!"error: {e.message}\n"⟩
  | .ok .showVersion => return ⟨0, version, ""⟩
  | .ok .showHelp => return ⟨0, help, ""⟩
  | .ok (.run settingsFile output) => do
    return answerTo (← (Pipeline.run fs settingsFile output).run)

end ForeignBindings.CommandLine
