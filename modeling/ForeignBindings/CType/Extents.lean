import ForeignBindings.Text.Blank
import ForeignBindings.Text.Digits

/-!
# Array extents

Splits a type such as `T[2][3]` into the text before the first bracket and the extents in the
brackets. An extent that is empty or no number below `2 ^ 64` is unknown, and so is one that a macro
names.
-/

namespace ForeignBindings.CType
open ForeignBindings.Text

/-- What a pair of brackets holds: a number, if it can be read as one. -/
abbrev Extent := Option UInt64

def readExtent (cs : List Char) : Extent := readWord 10 (trim cs)

/-- Reads bracket pairs with blank characters between them. Inside a pair the first argument holds
what stands since the opening bracket, in reverse. Reading stops at anything else. -/
def extentsFrom : Option (List Char) → List Char → List Extent
  | _, [] => []
  | none, c :: cs =>
    if c = '[' then extentsFrom (some []) cs
    else if isBlank c then extentsFrom none cs
    else []
  | some inner, c :: cs =>
    if c = ']' then readExtent inner.reverse :: extentsFrom none cs
    else extentsFrom (some (c :: inner)) cs

/-- The text before the first bracket and the extents after it. -/
def splitExtents (cs : List Char) : List Char × List Extent :=
  let base := cs.takeWhile (· != '[')
  match cs.dropWhile (· != '[') with
  | [] => (base, [])
  | brackets => (trimEnd base, extentsFrom none brackets)

def renderExtent : Extent → String
  | some n => s!"[{n}]"
  | none => "[]"

def renderExtents (extents : List Extent) : String := String.join (extents.map renderExtent)

end ForeignBindings.CType
