import ForeignBindings.Text.Blank
import ForeignBindings.Text.Lines

/-!
# Layout of emitted source

Emitted source is a list of lines. Blocks are indented by four spaces, blank lines by none. A line
may hold a line break that came from a name; only the front of a line is ever indented.
-/

namespace ForeignBindings.Layout
open Text

/-- Indents lines by four spaces. -/
def indent (ls : List String) : List String := ls.map fun l => if l = "" then l else "    " ++ l

/-- A block: its head, an opening brace, the indented body and a closing brace. -/
def block (head : String) (body : List String) : List String :=
  (head ++ " \x7b") :: indent body ++ ["\x7d"]

/-- A line of documentation without the blank characters at its end. -/
def docLine (line : List Char) : String :=
  match trimEnd line with
  | [] => "///"
  | text => "/// " ++ String.ofList text

def docLines (documentation : Option String) : List String :=
  match documentation with
  | none => []
  | some text => (lines text.toList).map docLine

/-- Puts a blank line in front of every item. -/
def spaced (items : List (List String)) : List String := items.flatMap ("" :: ·)

def commaSeparated (items : List String) : String := ", ".intercalate items

/-- The part of a signature that names the type of the result. -/
def resultSuffix : Option String → String
  | none => ""
  | some type => " -> " ++ type

end ForeignBindings.Layout
