import ForeignBindings.Identifier
import ForeignBindings.Text.LowerCase

/-!
# Case styles of names

`snakeCase` and `upperCamelCase` spell a name in the two styles of the emitted module. Both look at
letters and digits of seven-bit text only; every other character separates words.
-/

namespace ForeignBindings.Identifier
open ForeignBindings.Text

/-- Whether a capital letter after `prev` and before `next` starts a word: it follows a small letter
or a digit, or it ends a run of capitals. -/
def startsWord (prev next : Option Char) : Bool :=
  match prev with
  | none => false
  | some p => p.isLower || p.isDigit || (p.isUpper && next.any Char.isLower)

/-- Spells the rest of a name after the character `prev`. A separating underscore may be written
only when `inWord` holds: something has been written and it does not end with an underscore. -/
def snakeAfter (prev : Option Char) (inWord : Bool) : List Char → List Char
  | [] => []
  | c :: cs =>
    if !c.isAlphanum then
      (if inWord then ['_'] else []) ++ snakeAfter (some c) false cs
    else
      (if c.isUpper && inWord && startsWord prev cs.head? then ['_'] else []) ++
        c.toLower :: snakeAfter (some c) true cs

/-- `MyStruct` becomes `my_struct` and `HTTPServer` becomes `http_server`. -/
def snakeCase (raw : String) : String :=
  String.ofList (dropWhileEnd (· == '_') (snakeAfter none false raw.toList))

/-- Makes the first letter a capital one. -/
def capitalize : List Char → List Char
  | [] => []
  | c :: cs => c.toUpper :: cs

/-- `on_click` becomes `OnClick`; capitals inside a word are kept. -/
def upperCamelCase (raw : String) : String :=
  String.ofList ((raw.toList.splitOnP (!·.isAlphanum)).flatMap capitalize)

/-- The module that a namespace is emitted as: `MyLib.Native` becomes `my_lib_native`. -/
def moduleName (scope : String) : String := ident (snakeCase scope) "bindings"

/-- The native function that an owning wrapper of the type releases through. -/
def destroySymbol (typeName : String) : String := lowerCase typeName ++ "_destroy"

end ForeignBindings.Identifier
