/-!
# Lines of a text

A line ends at a line feed; a carriage return right before that line feed belongs to the ending.
What stands after the last line feed is a line of its own unless it is empty, and keeps a carriage
return at its end.
-/

namespace ForeignBindings.Text

/-- Takes off a carriage return at the end. -/
def dropReturn (cs : List Char) : List Char :=
  if cs.getLast? = some '\r' then cs.dropLast else cs

/-- Reads the pieces between line feeds as lines: every piece but the last was ended by a line
feed. -/
def linesOfPieces : List (List Char) → List (List Char)
  | [] => []
  | [last] => if last.isEmpty then [] else [last]
  | piece :: pieces => dropReturn piece :: linesOfPieces pieces

/-- The lines of a text, without their endings. -/
def lines (cs : List Char) : List (List Char) := linesOfPieces (cs.splitOnP (· == '\n'))

/-- The lines of a string, without their endings. -/
def linesOf (s : String) : List String := (lines s.toList).map String.ofList

/-- Writes every line with a line feed after it. -/
def unlines (ls : List String) : String := String.join (ls.map (· ++ "\n"))

end ForeignBindings.Text
