import ForeignBindings.Text.Blank
import ForeignBindings.Text.Digits

/-!
# Integer literals

Reads C integer literals such as `0x1F`, `017` and `-1UL` into the 64-bit pattern of their value.
A minus sign negates the pattern, so `-1` and `0xFFFFFFFFFFFFFFFF` are the same value.
-/

namespace ForeignBindings.Literal
open ForeignBindings.Text

def isSuffixLetter (c : Char) : Bool := c == 'u' || c == 'U' || c == 'l' || c == 'L'

/-- Reads a literal without sign and suffix: hexadecimal after `0x`, octal after `0`, decimal
otherwise. -/
def magnitude : List Char → Option UInt64
  | '0' :: 'x' :: cs => readWord 16 cs
  | '0' :: 'X' :: cs => readWord 16 cs
  | ['0'] => some 0
  | '0' :: cs => if cs.all Char.isDigit then readWord 8 cs else none
  | cs => readWord 10 cs

/-- Reads a literal whose end is trimmed: blank characters and minus signs, then an unsigned
literal. -/
def signed : List Char → Option UInt64
  | [] => magnitude []
  | c :: cs =>
    if c = '-' then (signed cs).map (0 - ·)
    else if isBlank c then signed cs
    else magnitude (dropWhileEnd isSuffixLetter (c :: cs))

/-- The 64-bit pattern of a C integer literal. -/
def read (cs : List Char) : Option UInt64 := signed (trimEnd cs)

/-- The 64-bit pattern of the C integer literal `text`. -/
def parse? (text : String) : Option UInt64 := read text.toList

example : parse? "0x10UL" = some 16 ∧ parse? " -1 " = some 0xFFFFFFFFFFFFFFFF ∧
    parse? "08" = none := by
  decide +kernel

end ForeignBindings.Literal
