import ForeignBindings.Text.CodePoints
import ForeignBindings.Text.PrintTable

/-!
# Quoted text

A text between quotation marks, as messages show it: quotes, backslashes and controls are escaped,
and so is every character that has no glyph of its own.
-/

namespace ForeignBindings.Text
open PrintTable

/-- A number in base sixteen, with small letters and no leading zero. -/
def hexDigits (n : Nat) : List Char := Nat.toDigits 16 n

/-- Whether a character is shown as itself. -/
def isPrintable (c : Char) : Bool :=
  if c.toNat < 0x7f then 0x20 ≤ c.toNat
  else !inRanges joined c && !inRanges unprintable c && !inRanges fillers c

/-- How a character is written between quotation marks. -/
def quoteChar (c : Char) : List Char :=
  match c with
  | '"' => ['\\', '"']
  | '\\' => ['\\', '\\']
  | '\n' => ['\\', 'n']
  | '\r' => ['\\', 'r']
  | '\t' => ['\\', 't']
  | '\x00' => ['\\', '0']
  | c => if isPrintable c then [c] else ['\\', 'u', '\x7b'] ++ hexDigits c.toNat ++ ['\x7d']

def quoted (s : String) : String := String.ofList ('"' :: s.toList.flatMap quoteChar ++ ['"'])

/-- A list of texts, each between quotation marks. -/
def quotedList (items : List String) : String := "[" ++ ", ".intercalate (items.map quoted) ++ "]"

end ForeignBindings.Text
