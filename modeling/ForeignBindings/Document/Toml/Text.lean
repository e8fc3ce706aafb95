import ForeignBindings.Text.Digits

/-!
# Quoted text in a configuration document

Text stands between quotation marks, where a backslash escapes, or between apostrophes, where
nothing does. Three marks in a row open and close a text that may span lines. The parts of a key are
written without marks, or between single ones.

A reader returns what it has read from the front of its input together with what is left, or
nothing if there is a fault. The number that some readers take bounds their steps; one more than the
length of the input is enough.
-/

namespace ForeignBindings.Document.Toml
open Text

/-- The blank characters inside a line. -/
def isSpace (c : Char) : Bool := c == ' ' || c == '\t'

/-- Skips blank characters inside a line. -/
def skipSpace (cs : List Char) : List Char := cs.dropWhile isSpace

/-- What follows a line ending at the front. -/
def afterNewline? : List Char → Option (List Char)
  | '\n' :: cs => some cs
  | '\r' :: '\n' :: cs => some cs
  | _ => none

/-- The characters that may stand for themselves in text and comments. -/
def isPlain (c : Char) : Bool := c == '\t' || (0x20 ≤ c.toNat && c.toNat != 0x7f)

/-- The character with a code in hexadecimal digits. -/
def charOfHex (digits : List Char) : Option Char := do
  let n ← digitsOnto 16 0 digits
  if n < 0xd800 ∨ (0xdfff < n ∧ n < 0x110000) then some (Char.ofNat n) else none

def readEscape : List Char → Option (Char × List Char)
  | 'b' :: cs => some ('\x08', cs)
  | 't' :: cs => some ('\t', cs)
  | 'n' :: cs => some ('\n', cs)
  | 'f' :: cs => some ('\x0c', cs)
  | 'r' :: cs => some ('\r', cs)
  | 'e' :: cs => some ('\x1b', cs)
  | '"' :: cs => some ('"', cs)
  | '\\' :: cs => some ('\\', cs)
  | 'x' :: a :: b :: cs => do return (← charOfHex [a, b], cs)
  | 'u' :: a :: b :: c :: d :: cs => do return (← charOfHex [a, b, c, d], cs)
  | 'U' :: a :: b :: c :: d :: e :: f :: g :: h :: cs => do
    return (← charOfHex [a, b, c, d, e, f, g, h], cs)
  | _ => none

/-- Reads the rest of a text up to its quotation mark. -/
def readBasic (read : List Char) : Nat → List Char → Option (List Char × List Char)
  | 0, _ => none
  | fuel + 1, cs =>
    match cs with
    | [] => none
    | '"' :: rest => some (read.reverse, rest)
    | '\\' :: rest => do
      let (c, rest) ← readEscape rest
      readBasic (c :: read) fuel rest
    | c :: rest => if isPlain c then readBasic (c :: read) fuel rest else none

/-- Reads the rest of a text up to its apostrophe. -/
def readLiteral (read : List Char) : List Char → Option (List Char × List Char)
  | [] => none
  | c :: cs =>
    if c = '\'' then some (read.reverse, cs)
    else if isPlain c then readLiteral (c :: read) cs
    else none

/-- Splits off the marks at the front that close a text: up to five, of which all but the last three
belong to the text. -/
def closing (mark : Char) (cs : List Char) : Option (List Char × List Char) :=
  let count := min 5 (cs.takeWhile (· == mark)).length
  if 3 ≤ count then some (List.replicate (count - 3) mark, cs.drop count) else none

/-- Skips blank characters and line endings. -/
def skipBlankLines : List Char → List Char
  | '\r' :: '\n' :: cs => skipBlankLines cs
  | c :: cs => if isSpace c || c == '\n' then skipBlankLines cs else c :: cs
  | [] => []

/-- What follows a backslash at the end of a line: blank characters and line endings are skipped. -/
def afterContinuation? (cs : List Char) : Option (List Char) := do
  return skipBlankLines (← afterNewline? (skipSpace cs))

/-- Reads the rest of a text that may span lines, up to its three marks. Line endings belong to it as
they stand. -/
def readLong (mark : Char) (escapes : Bool) (read : List Char) :
    Nat → List Char → Option (List Char × List Char)
  | 0, _ => none
  | fuel + 1, cs =>
    match closing mark cs with
    | some (last, rest) => some (read.reverse ++ last, rest)
    | none =>
      match cs with
      | [] => none
      | '\r' :: '\n' :: rest => readLong mark escapes ('\n' :: '\r' :: read) fuel rest
      | c :: rest =>
        if escapes && c == '\\' then
          match afterContinuation? rest with
          | some rest => readLong mark escapes read fuel rest
          | none => do
            let (c, rest) ← readEscape rest
            readLong mark escapes (c :: read) fuel rest
        else if isPlain c || c == '\n' then readLong mark escapes (c :: read) fuel rest
        else none

/-- A line ending right after the opening marks does not belong to the text. -/
def skipFirstNewline (cs : List Char) : List Char := (afterNewline? cs).getD cs

/-- What was read, if nothing is left. -/
def whole? : Option (List Char × List Char) → Option String
  | some (cs, []) => some (String.ofList cs)
  | _ => none

def textOf? (cs : List Char) : Option String :=
  let fuel := cs.length + 1
  match cs with
  | '"' :: '"' :: '"' :: rest => whole? (readLong '"' true [] fuel (skipFirstNewline rest))
  | '\'' :: '\'' :: '\'' :: rest => whole? (readLong '\'' false [] fuel (skipFirstNewline rest))
  | '"' :: rest => whole? (readBasic [] fuel rest)
  | '\'' :: rest => whole? (readLiteral [] rest)
  | _ => none

/-! ## Keys -/

/-- The characters of a key without quotation marks. -/
def isBareKeyChar (c : Char) : Bool := c.isAlphanum || c == '_' || c == '-'

/-- The name that one part of a key spells. It may be empty between marks only. -/
def nameOf? (part : List Char) : Option String :=
  match part with
  | '"' :: rest => whole? (readBasic [] (part.length + 1) rest)
  | '\'' :: rest => whole? (readLiteral [] rest)
  | _ => if part ≠ [] ∧ part.all isBareKeyChar then some (String.ofList part) else none

end ForeignBindings.Document.Toml
