import ForeignBindings.Document.Fault
import ForeignBindings.Document.Value

/-!
# Reading records from values

A record is read from a table by the names of its fields or from a list by their order. The fields
that are there are read first, in the order in which they stand; a required field that is not
there is reported after that.
-/

namespace ForeignBindings.Document

namespace Value

/-- The error for a value in a place where something else is expected. -/
def unexpected (v : Value) (expected : String) : DocumentError := .invalidType v.describe expected

def text : Value → Except DocumentError String
  | string s => .ok s
  | v => .error (v.unexpected "a string")

def optionalText : Value → Except DocumentError (Option String)
  | null => .ok none
  | v => some <$> v.text

def flag : Value → Except DocumentError Bool
  | bool b => .ok b
  | v => .error (v.unexpected "a boolean")

def listOf {α : Type} (item : Value → Except DocumentError α) :
    Value → Except DocumentError (List α)
  | list items => items.mapM item
  | v => .error (v.unexpected "a sequence")

end Value

/-- The name of a kind of record and the names of its fields in order. -/
structure RecordShape where
  typeName : String
  fields : List String
deriving Repr, DecidableEq

namespace RecordShape

/-- The fields that a value gives to a record, in the order in which they stand. -/
def entries (shape : RecordShape) : Value → Except DocumentError (List (String × Value))
  | .table entries => .ok entries
  | .dateTime => .ok []
  | .list items => .ok (shape.fields.zip items)
  | v => .error (v.unexpected s!"struct {shape.typeName}")

/-- The error for a required field that a value does not give. -/
def missing (shape : RecordShape) (v : Value) (field : String) : DocumentError :=
  match v with
  | .list _ =>
    .invalidLength (shape.fields.idxOf field)
      s!"struct {shape.typeName} with {shape.fields.length} elements"
  | _ => .missingField field

def require {α : Type} (shape : RecordShape) (v : Value) (field : String) :
    Option α → Except DocumentError α
  | some a => .ok a
  | none => .error (shape.missing v field)

/-- Refuses a list with more items than the record has fields. -/
def checkLength (shape : RecordShape) : Value → Except DocumentError Unit
  | .list items =>
    if items.length ≤ shape.fields.length then .ok ()
    else .error (.invalidLength items.length s!"{shape.fields.length} elements in sequence")
  | _ => .ok ()

end RecordShape

end ForeignBindings.Document
