/-!
# Texts as bytes

A text can be scanned by its bytes in UTF-8 and cut at a byte offset. There is no cut behind the end
of a text or inside a character.
-/

namespace ForeignBindings.Text

def utf8 (cs : List Char) : List UInt8 := cs.flatMap String.utf8EncodeChar

/-- The text before a byte offset and the text behind it, if the text can be cut there. -/
def cutAt? : Nat → List Char → Option (List Char × List Char)
  | 0, cs => some ([], cs)
  | _ + 1, [] => none
  | offset + 1, c :: cs =>
    if c.utf8Size ≤ offset + 1 then
      (cutAt? (offset + 1 - c.utf8Size) cs).map fun (before, after) => (c :: before, after)
    else none

end ForeignBindings.Text
