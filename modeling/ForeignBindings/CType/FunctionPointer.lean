import ForeignBindings.Text.Blank
import ForeignBindings.Text.Bytes

/-!
# Function pointers

A function pointer is spelled `R (*)(A, B)`: a return type, the marker `(*)` and a list of parameter
types in parentheses. Nested parentheses, a missing return type and an empty place in the list all
mean that a text is no function pointer.
-/

namespace ForeignBindings.CType
open ForeignBindings.Text

/-- The parts of a function-pointer type, as spelled. -/
structure FunctionPointer where
  returnType : String
  parameterTypes : List String
deriving Repr, DecidableEq

/-- What follows a seven-bit character at the front of some bytes. -/
def afterByte? (c : Char) : List UInt8 → Option (List UInt8)
  | [] => none
  | b :: bytes => if b = c.toUInt8 then some bytes else none

def skipBlanks (bytes : List UInt8) : List UInt8 :=
  bytes.dropWhile fun b => isAsciiBlank (Char.ofUInt8 b)

/-- What follows the marker `(*)` at the front of some bytes; blanks may stand inside it. -/
def afterMarker? (bytes : List UInt8) : Option (List UInt8) := do
  let inside ← afterByte? '(' bytes
  let behindStar ← afterByte? '*' (skipBlanks inside)
  afterByte? ')' (skipBlanks behindStar)

/-- The offsets where the first marker starts and ends in some bytes, the first of which stands at
`offset`. -/
def markerFrom? (offset : Nat) : List UInt8 → Option (Nat × Nat)
  | [] => none
  | b :: bytes =>
    match afterMarker? (b :: bytes) with
    | some rest => some (offset, offset + 1 + bytes.length - rest.length)
    | none => markerFrom? (offset + 1) bytes

/-- Splits a text at the first marker. The marker is searched for among the bytes of the text, and
the text is cut where it starts and where it ends. -/
def splitMarker? (cs : List Char) : Option (List Char × List Char) := do
  let (start, stop) ← markerFrom? 0 (utf8 cs)
  let (before, _) ← cutAt? start cs
  let (_, after) ← cutAt? stop cs
  return (before, after)

/-- The characters that set off a parameter list. -/
def isParenthesis (c : Char) : Bool := c == '(' || c == ')'

/-- The text inside a pair of parentheses that spans the whole text. -/
def insideParentheses? : List Char → Option (List Char)
  | '(' :: cs => if cs.getLast? = some ')' then some cs.dropLast else none
  | _ => none

/-- Reads a parameter list: blank and `void` stand for no parameters. -/
def parameterTypes? (cs : List Char) : Option (List (List Char)) :=
  let list := trim cs
  if list = [] || list = "void".toList then some []
  else
    let items := (list.splitOnP (· == ',')).map trim
    if [] ∈ items then none else some items

namespace FunctionPointer

/-- Reads a function-pointer type from a text. -/
def read? (cs : List Char) : Option FunctionPointer := do
  let (before, after) ← splitMarker? (trim cs)
  let returnType := trim before
  guard (returnType ≠ [] ∧ returnType.all (!isParenthesis ·))
  let list ← insideParentheses? (trim after)
  guard (list.all (!isParenthesis ·))
  let items ← parameterTypes? list
  return ⟨String.ofList returnType, items.map String.ofList⟩

/-- The function-pointer type that `type` spells. -/
def parse? (type : String) : Option FunctionPointer := read? type.toList

end FunctionPointer

end ForeignBindings.CType
