/-!
# Faults of documents

What can be wrong with a document, from its text to the values that it holds, and the messages
for it.
-/

namespace ForeignBindings.Document

/-- Why a document is not what it should be. -/
inductive DocumentError
  /-- The text is no document of its format. -/
  | malformed
  /-- A key has more parts than a key may have. -/
  | keyTooLong
  | invalidType (found expected : String)
  | invalidValue (found expected : String)
  | invalidLength (length : Nat) (expected : String)
  | missingField (name : String)
  | unknownVariant (name : String) (known : List String)
  /-- The value of an enumerator is a text but no integer literal. -/
  | invalidEnumValue (text : String)
  /-- The value of an enumerator is neither a number nor a text. -/
  | noEnumValue
  /-- A choice is neither a text nor a table. -/
  | noChoice
  /-- A choice is a table without or with more than one entry. -/
  | choiceCount (isEmpty : Bool)
  /-- A choice carries a value although it takes none. -/
  | choicePayload (found : String)
deriving Repr, DecidableEq

namespace DocumentError

def message : DocumentError → String
  | malformed => "<TOML syntax error>"
  | keyTooLong => "recursion limit"
  | invalidType found expected => s!"invalid type: {found}, expected {expected}"
  | invalidValue found expected => s!"invalid value: {found}, expected {expected}"
  | invalidLength length expected => s!"invalid length {length}, expected {expected}"
  | missingField name => s!"missing field `{name}`"
  | unknownVariant name known =>
    let choices := ", ".intercalate (known.map fun choice => s!"`{choice}`")
    s!"unknown variant `{name}`, expected one of {choices}"
  | invalidEnumValue text => s!"invalid enum value `{text}`"
  | noEnumValue => "data did not match any variant of untagged enum RawEnumValue"
  | noChoice => "wanted string or table"
  | choiceCount true => "wanted exactly 1 element, found 0 elements"
  | choiceCount false => "wanted exactly 1 element, more than 1 element"
  | choicePayload found => s!"expected {found}"

end DocumentError

end ForeignBindings.Document
