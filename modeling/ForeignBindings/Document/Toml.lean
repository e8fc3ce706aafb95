import ForeignBindings.Document.Fault
import ForeignBindings.Document.Toml.Outline
import ForeignBindings.Document.Toml.Scalar
import ForeignBindings.Document.Toml.Tables

/-!
# Configuration documents

Reads a document in Tom's Obvious Minimal Language into a table, line by line along its outline.
Reading stops at the first fault. All faults of the text are alike but for a key with too many parts.
-/

namespace ForeignBindings.Document.Toml

def wellFormed {α : Type} : Option α → Except DocumentError α
  | some a => .ok a
  | none => .error .malformed

/-- The greatest number of parts of a key. -/
def mostParts : Nat := 80

def names (key : Parts) : Except DocumentError (List String) := do
  let names ← key.mapM fun part => wellFormed (nameOf? part)
  if mostParts < names.length then .error .keyTooLong else return names

/-! ## Values -/

mutual

def Sketch.value : Sketch → Except DocumentError Value
  | .word cs => wellFormed (valueOfWord? cs)
  | .text cs => do return .string (← wellFormed (textOf? cs))
  | .list items => do return .list (← values items)
  | .table entries => do return .table (toEntries (← assignAll [] entries))

def values : List Sketch → Except DocumentError (List Value)
  | [] => .ok []
  | item :: items => do
    let v ← item.value
    return v :: (← values items)

/-- Gives values to the keys of an inline table. -/
def assignAll (table : Entries) : List (Parts × Sketch) → Except DocumentError Entries
  | [] => .ok table
  | (key, sketch) :: entries => do
    let key ← names key
    let v ← sketch.value
    let last ← wellFormed key.getLast?
    assignAll (← wellFormed (assign key.dropLast last v table)) entries

end

/-! ## Documents -/

/-- A document while it is read: all tables, and the path of the one that the last header opened. -/
structure Draft where
  root : Entries
  current : List String

namespace Draft

/-- Reads a line. A header opens a table, and a key gets its value in the table that was opened last. -/
def read (draft : Draft) : Line → Except DocumentError Draft
  | .header isRepeated key => do
    let path ← names key
    let last ← wellFormed path.getLast?
    let change := if isRepeated then openRepeated last else openTable last
    let root ← wellFormed (descend .implied change path.dropLast .header draft.root)
    return ⟨root, path⟩
  | .entry key value => do
    let key ← names key
    let v ← value.value
    let last ← wellFormed key.getLast?
    let change := fun _ table => assign key.dropLast last v table
    let root ← wellFormed (descend .implied change draft.current .header draft.root)
    return { draft with root }

end Draft

def read (text : String) : Except DocumentError Value := do
  let lines ← wellFormed (outline? text)
  let draft ← lines.foldlM Draft.read ⟨[], []⟩
  return .table (toEntries draft.root)

/-! ## What a document stands for -/

/-- Whether a value is none of the language, whose whole numbers have 64 bits with a sign. -/
def isForeign : Value → Bool
  | .natural _ | .wide _ => true
  | _ => false

/-- Reads what the value of a document stands for. A larger number than the language has is let
through as long as nothing is amiss; a document that holds one and is faulty is none at all. -/
def readAs {α : Type} (decode : Value → Except DocumentError α) (text : String) :
    Except DocumentError α := do
  let v ← read text
  match decode v with
  | .ok a => return a
  | .error e => .error (if (v.findLeaf? isForeign).isSome then .malformed else e)

end ForeignBindings.Document.Toml
