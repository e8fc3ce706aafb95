import ForeignBindings.Text.Blank

/-!
# Identifiers of the emitted module

`ident` turns any text into an identifier that the emitted module accepts: foreign characters become
underscores, a keyword becomes a raw identifier, and the few words that no raw identifier may spell
get an underscore at the end.
-/

namespace ForeignBindings.Identifier
open ForeignBindings.Text

/-- Keywords of the emitted language that a raw identifier may spell. -/
def keywords : List String :=
  ["abstract", "as", "async", "await", "become", "box", "break", "const", "continue", "do", "dyn",
    "else", "enum", "extern", "false", "final", "fn", "for", "gen", "if", "impl", "in", "let",
    "loop", "macro", "match", "mod", "move", "mut", "override", "priv", "pub", "ref", "return",
    "static", "struct", "trait", "true", "try", "type", "typeof", "unsafe", "unsized", "use",
    "virtual", "where", "while", "yield"]

/-- Words that not even a raw identifier may spell. -/
def reservedWords : List String := ["self", "Self", "crate", "super", "_"]

/-- The characters an identifier may hold. -/
def isWordChar (c : Char) : Bool := c.isAlphanum || c == '_'

/-- Replaces every character that an identifier may not hold by an underscore, and keeps a digit
from standing first. -/
def wordOf (cs : List Char) : List Char :=
  match cs.map fun c => if isWordChar c then c else '_' with
  | [] => []
  | c :: rest => if c.isDigit then '_' :: c :: rest else c :: rest

/-- Keeps a word from being read as a keyword. -/
def guardKeyword (word : String) : String :=
  if word ∈ reservedWords then word ++ "_"
  else if word ∈ keywords then "r#" ++ word
  else word

/-- The identifier for the name `raw`, or `fallback` when the name is blank. -/
def ident (raw fallback : String) : String :=
  match wordOf (trim raw.toList) with
  | [] => fallback
  | word => guardKeyword (String.ofList word)

/-- Drops every mark of a raw identifier at the front. -/
def dropRawMarks : List Char → List Char
  | 'r' :: '#' :: cs => dropRawMarks cs
  | cs => cs

/-- The identifier without the mark of a raw identifier. -/
def bare (name : String) : String := String.ofList (dropRawMarks name.toList)

end ForeignBindings.Identifier
