import ForeignBindings.Text.Blank

/-!
# Shape of a type without brackets

A type without brackets is a run of words with stars and ampersands in it. Its shape is the base
name that is left when qualifiers, tags and scopes are taken off, the depth of indirection, and
whether `const` applies to what is pointed at.
-/

namespace ForeignBindings.CType
open ForeignBindings.Text

structure Shape where
  /-- The base name, its words separated by single spaces. -/
  base : String
  /-- Whether the pointee, or the value if there is no indirection, is constant. -/
  isConst : Bool
  /-- The number of stars, and one more for any number of ampersands. -/
  indirection : Nat
deriving Repr, DecidableEq

/-- Words that say nothing about the layout of a type. -/
def qualifiers : List String := ["volatile", "restrict", "__restrict", "__restrict__", "mutable"]

/-- Words that only say which kind of declaration a name belongs to. -/
def tags : List String := ["struct", "class", "enum", "union", "typename"]

/-- The marks of indirection. -/
def isDecoration (c : Char) : Bool := c == '*' || c == '&'

/-- The characters between words. -/
def isSeparator (c : Char) : Bool := isBlank c || isDecoration c

def byteLength : List Char → Nat
  | [] => 0
  | c :: cs => c.utf8Size + byteLength cs

/-- Whether `const` is one of the words that start before `limit`. The words start at `offset`, and
every separator counts as one byte. -/
def constBefore (limit : Nat) : Nat → List (List Char) → Bool
  | _, [] => false
  | offset, word :: words =>
    (word == "const".toList && offset < limit) ||
      constBefore limit (offset + byteLength word + 1) words

/-- The text after the last pair of colons. -/
def afterLastScope : List Char → Option (List Char)
  | [] => none
  | c :: cs =>
    match afterLastScope cs with
    | some rest => some rest
    | none => if c = ':' && cs.head? = some ':' then some cs.tail else none

/-- Whether a word belongs to the base name. -/
def isBaseWord (word : String) : Bool :=
  word != "" && word != "const" && word ∉ qualifiers && word ∉ tags

/-- The base name of a type without its scopes. -/
def baseName (words : List String) : String :=
  let joined := " ".intercalate words
  match afterLastScope joined.toList with
  | some rest => String.ofList (trim rest)
  | none => joined

def indirection (cs : List Char) : Nat := cs.count '*' + if '&' ∈ cs then 1 else 0

def shapeOf (cs : List Char) : Shape :=
  let words := cs.splitOnP isSeparator
  let limit := byteLength (cs.takeWhile (!isDecoration ·))
  { base := baseName ((words.map String.ofList).filter isBaseWord)
    isConst := constBefore limit 0 words || (indirection cs == 0 && words.contains "const".toList)
    indirection := indirection cs }

namespace Shape

/-- The canonical spelling of a shape. -/
def spelling (shape : Shape) : String :=
  (if shape.isConst then "const " else "") ++ shape.base ++
    String.ofList (List.replicate shape.indirection '*')

/-- Whether a shape is spelled as a pointer to characters, and then whether they are constant. -/
def characterPointer? (shape : Shape) : Option Bool :=
  if shape.indirection ≠ 1 then none
  else if shape.spelling = "char*" then some false
  else if shape.spelling = "const char*" then some true
  else none

end Shape

end ForeignBindings.CType
