import ForeignBindings.Declaration.Set
import ForeignBindings.Event
import ForeignBindings.Identifier
import ForeignBindings.Section
import ForeignBindings.TypeMapping

/-!
# The bindings section

Every function gets one raw binding: an external block that declares the native symbol under its
native signature. The documentation quotes the native declaration and says who keeps the strings
alive.
-/

namespace ForeignBindings
open Identifier Layout

structure NativeParam where
  name : String
  type : String
deriving Repr, DecidableEq

def NativeParam.render (param : NativeParam) : String := s!"{param.name}: {param.type}"

structure Binding where
  library : String
  abi : String
  documentation : List String
  symbol : String
  params : List NativeParam
  result : Option String
deriving Repr, DecidableEq

namespace BoundFunction

/-- The identifier of a function in the emitted module. -/
def emittedName (f : BoundFunction) : String := ident f.symbol "unnamed"

/-- The identifiers of the declared parameters with their types. A parameter without a name is
called by its position. -/
def declaredParams (map : String → TypeMapping) (f : BoundFunction) : List (String × TypeMapping) :=
  f.decl.parameters.mapIdx fun i p => (ident p.name s!"arg{i}", map p.type)

/-- The type that a method takes its instance as. -/
def selfType : String := "void*"

/-- The parameters of the native function: the instance, if it takes one, and the declared ones. -/
def nativeParams (map : String → TypeMapping) (f : BoundFunction) : List (String × TypeMapping) :=
  (if f.takesSelf then [("self_", map selfType)] else []) ++ f.declaredParams map

/-- The type of the result, or nothing for a function that returns none. -/
def nativeResult (map : String → TypeMapping) (f : BoundFunction) : Option String :=
  let mapping := map f.decl.returnType
  if mapping.isVoid then none else some mapping.abiName

/-- The declaration of a function in the foreign language. -/
def nativeSignature (f : BoundFunction) : String :=
  let params := f.decl.parameters.map fun p =>
    if p.name = "" then p.type else p.type ++ " " ++ p.name
  let result := String.ofList (Text.trim f.decl.returnType.toList)
  s!"{result} {f.decl.name}({commaSeparated params})"

/-- What the documentation says about a method. -/
def methodRemark (f : BoundFunction) : List String :=
  match f.owner with
  | none => []
  | some owner =>
    let qualifier :=
      if f.decl.isStatic then " (static)" else if f.decl.isVirtual then " (virtual)" else ""
    [s!"/// Method `{owner.name}::{f.decl.name}`{qualifier}."]

/-- Who keeps the string of a parameter alive. -/
def paramContract (name : String) (mapping : TypeMapping) : Option String :=
  if mapping.marshalHint = some .ownedString then
    some <|
      if mapping.isConst then
        s!"`{name}` must stay alive and NUL-terminated for the duration of the call."
      else
        s!"`{name}` may be written by the callee; the buffer must stay valid for the " ++
          "duration of the call."
  else none

/-- Who keeps a returned string alive. -/
def resultContract (mapping : TypeMapping) : Option String :=
  if mapping.marshalHint = some .ownedString then
    some ("The returned string belongs to the native side; copy it before the native side " ++
      "invalidates it.")
  else none

/-- What the documentation says about the strings that a function takes and returns. -/
def contractLines (map : String → TypeMapping) (f : BoundFunction) : List String :=
  (f.declaredParams map).filterMap (fun (name, mapping) => paramContract name mapping) ++
    (resultContract (map f.decl.returnType)).toList

def bindingDocs (map : String → TypeMapping) (f : BoundFunction) : List String :=
  docLines f.decl.documentation ++
    (if f.decl.documentation.isSome then ["///"] else []) ++
    [s!"/// Native signature: `{f.nativeSignature}`."] ++
    f.methodRemark ++
    match f.contractLines map with
    | [] => []
    | contract => "///" :: "/// # Ownership" :: contract.map ("/// " ++ ·)

def binding (map : String → TypeMapping) (options : Options) (f : BoundFunction) : Binding where
  library := options.library
  abi := options.convention.abi
  documentation := f.bindingDocs map
  symbol := f.emittedName
  params := (f.nativeParams map).map fun (name, mapping) => ⟨name, mapping.paramAbi⟩
  result := f.nativeResult map

end BoundFunction

/-- The attribute that names the native library. -/
def linkAttribute (library : String) : String := s!"#[link(name = \"{library}\")]"

def externHead (abi : String) : String := s!"unsafe extern \"{abi}\""

/-- The source of a binding. Its documentation is laid out as text before it is indented, so a line
break in a name starts a line of its own. -/
def Binding.lines (b : Binding) : List String :=
  let params := commaSeparated (b.params.map (·.render))
  [linkAttribute b.library, externHead b.abi ++ " \x7b"] ++
    (Text.linesOf (Text.unlines b.documentation)).map ("    " ++ ·) ++
    [s!"    pub fn {b.symbol}({params}){resultSuffix b.result};", "\x7d"]

namespace BindingsSection

def items (map : String → TypeMapping) (options : Options) (set : DeclarationSet) : List Binding :=
  set.functions.map (·.binding map options)

def events (map : String → TypeMapping) (set : DeclarationSet) : List Event :=
  set.functions.map fun f => .emittedBinding f.emittedName (f.nativeParams map).length

def lines (map : String → TypeMapping) (options : Options) (set : DeclarationSet) : List String :=
  "use super::types::*;" :: spaced ((items map options set).map (·.lines))

end BindingsSection

end ForeignBindings
