import ForeignBindings.Declaration.Decode
import ForeignBindings.Document.Toml
import ForeignBindings.Options
import ForeignBindings.Path

/-!
# Settings and declaration files

A settings file names the namespace, the native library and the file with the declarations, and
may choose a calling convention and an output directory. A declaration file holds a tree under
`declarations`.
-/

namespace ForeignBindings
open Document

/-! ## Choices -/

namespace CallingConvention

def ofWord (word : String) : Except DocumentError CallingConvention :=
  match all.find? (·.word == word) with
  | some convention => .ok convention
  | none => .error (.unknownVariant word (all.map (·.word)))

/-- What a choice with a value of its own is missing, if the value is not empty. -/
def payloadFault? : Value → Option String
  | .table [] | .list [] => none
  | .table _ => some "empty table"
  | .list _ => some "empty array"
  | .string _ => some "table, found string"
  | .natural _ | .integer _ | .wide _ => some "table, found integer"
  | .decimal _ => some "table, found float"
  | .bool _ => some "table, found boolean"
  | .dateTime => some "table, found datetime"
  | .null => some "table, found null"

/-- Reads a convention: a word, or a table with the word as its only key. -/
def decode : Value → Except DocumentError CallingConvention
  | .string word => ofWord word
  | .table [(word, payload)] => do
    let convention ← ofWord word
    match payloadFault? payload with
    | some found => .error (.choicePayload found)
    | none => return convention
  | .table entries => .error (.choiceCount entries.isEmpty)
  | _ => .error .noChoice

end CallingConvention

/-! ## Settings -/

/-- The settings of a generator run. Paths are kept as written. -/
structure Settings where
  scope : String
  library : String
  convention : CallingConvention
  declarations : Path
  outputDir : Path
deriving Repr, DecidableEq

namespace Settings

def shape : RecordShape :=
  ⟨"Config", ["namespace", "library", "calling_convention", "declarations", "output_dir"]⟩

def decodePath : Value → Except DocumentError Path
  | .string s => .ok s
  | v => .error (v.unexpected "path string")

/-- The fields of a settings file, as far as they are given. -/
structure Given where
  scope : Option String := none
  library : Option String := none
  convention : CallingConvention := .cdecl
  declarations : Option Path := none
  outputDir : Path := "generated"

def Given.read (given : Given) : String × Value → Except DocumentError Given
  | ("namespace", v) => do return { given with scope := some (← v.text) }
  | ("library", v) => do return { given with library := some (← v.text) }
  | ("calling_convention", v) => do
    return { given with convention := ← CallingConvention.decode v }
  | ("declarations", v) => do return { given with declarations := some (← decodePath v) }
  | ("output_dir", v) => do return { given with outputDir := ← decodePath v }
  | _ => .ok given

def decode (v : Value) : Except DocumentError Settings := do
  let given ← (← shape.entries v).foldlM Given.read {}
  let scope ← shape.require v "namespace" given.scope
  let library ← shape.require v "library" given.library
  let declarations ← shape.require v "declarations" given.declarations
  return ⟨scope, library, given.convention, declarations, given.outputDir⟩

def parse (text : String) : Except DocumentError Settings := Toml.readAs decode text

def options (settings : Settings) : Options :=
  ⟨settings.scope, settings.library, settings.convention⟩

end Settings

/-! ## Declaration files -/

namespace Declaration

/-- Reads the tree of a declaration file, which is empty if the file names none. -/
def decodeFile : Value → Except DocumentError (List Declaration)
  | .table entries =>
    match entries.lookup "declarations" with
    | some v => decodeTree true v
    | none => .ok []
  | v => .error (v.unexpected "struct DeclarationFile")

def parseFile (text : String) : Except DocumentError (List Declaration) :=
  Toml.readAs decodeFile text

end Declaration

/-- The message for a declaration file that cannot be read. -/
def declarationFileMessage (e : DocumentError) : String :=
  "failed to parse declaration tree: " ++ e.message

end ForeignBindings
