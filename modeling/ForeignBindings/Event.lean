import ForeignBindings.CType.FunctionPointer
import ForeignBindings.Declaration
import ForeignBindings.Text.Quoted

/-!
# Events

What generation reports besides its result: declarations that it drops, types that it does not know,
and what it has emitted. An event is its cause; level, message and fields are read off the cause.
-/

namespace ForeignBindings
open CType

/-- How much an event matters, the most important first. -/
inductive Level
  | warn | info | debug
deriving Repr, DecidableEq

namespace Level

def word : Level → String
  | warn => "warn"
  | info => "info"
  | debug => "debug"

/-- Zero for the most important level. -/
def rank : Level → Nat
  | warn => 0
  | info => 1
  | debug => 2

end Level

inductive FieldValue
  | text (s : String)
  | count (n : Nat)
  | flag (b : Bool)
deriving Repr, DecidableEq

/-- The number of declarations of each kind that generation kept, and of the types it mapped. -/
structure Totals where
  functions : Nat
  structs : Nat
  enums : Nat
  typedefs : Nat
  classes : Nat
  callbacks : Nat
  mappedTypes : Nat
deriving Repr, DecidableEq

inductive Event
  | duplicateType (name : String) (kind : Kind)
  | duplicateFunction (symbol : String)
  | emptyTree (scope : String)
  | unmatchedCallback (type context : String)
  | callbackCollision (name : String) (kept dropped : FunctionPointer)
  | synthesizedCallback (type context : String)
  | unresolvedType (name context : String)
  | duplicateEnumerator (enumName variant : String)
  | emittedEnum (name : String) (values : Nat) (storage : String)
  | emittedStruct (name : String) (fields : Nat)
  | emittedTypedef (name target : String)
  | emittedClass (name : String) (fields methods : Nat)
  | emittedBinding (symbol : String) (params : Nat)
  | duplicateHelper (name helper : String)
  | emittedHelpers (name : String)
  | emittedCallback (name : String)
  | emittedWrapper (symbol : String) (isUnsafe : Bool)
  | emittedOwner (name owned destroy : String)
  | generated (scope : String) (totals : Totals)
deriving Repr, DecidableEq

namespace Event

def level : Event → Level
  | duplicateType .. | duplicateFunction .. | callbackCollision .. | unresolvedType ..
  | duplicateEnumerator .. | duplicateHelper .. => .warn
  | generated .. => .info
  | emptyTree .. | unmatchedCallback .. | synthesizedCallback .. | emittedEnum .. | emittedStruct ..
  | emittedTypedef .. | emittedClass .. | emittedBinding .. | emittedHelpers .. | emittedCallback ..
  | emittedWrapper .. | emittedOwner .. => .debug

def message : Event → String
  | duplicateType .. => "dropping duplicate type (first declaration wins)"
  | duplicateFunction .. => "dropping duplicate function (first declaration wins)"
  | emptyTree .. => "empty declaration tree; emitting section scaffolding only"
  | unmatchedCallback .. => "function-pointer-like type did not match; skipped"
  | callbackCollision .. =>
    "callback name collision with a different signature; keeping the first"
  | synthesizedCallback .. => "synthesized callback type"
  | unresolvedType .. => "type is not declared in this run; passing it through unchanged"
  | duplicateEnumerator .. => "dropping duplicate enum value"
  | emittedEnum .. => "emitted enum"
  | emittedStruct .. => "emitted struct"
  | emittedTypedef .. => "emitted typedef"
  | emittedClass .. => "emitted class"
  | emittedBinding .. => "emitted binding"
  | duplicateHelper .. => "marshaling helpers already emitted under this name; skipping"
  | emittedHelpers .. => "emitted marshaling helpers"
  | emittedCallback .. => "emitted callback type"
  | emittedWrapper .. => "emitted wrapper"
  | emittedOwner .. => "emitted owning wrapper"
  | generated .. => "generated sections"

def describeSignature (signature : FunctionPointer) : String :=
  s!"DelegateSignature \x7b return_type: {Text.quoted signature.returnType}, parameter_types: " ++
    s!"{Text.quotedList signature.parameterTypes} \x7d"

def fields : Event → List (String × FieldValue)
  | duplicateType name kind => [("name", .text name), ("kind", .text kind.word)]
  | duplicateFunction symbol => [("symbol", .text symbol)]
  | emptyTree scope => [("namespace", .text scope)]
  | unmatchedCallback type context => [("ty", .text type), ("context", .text context)]
  | callbackCollision name kept dropped =>
    [("name", .text name), ("kept", .text (describeSignature kept)),
      ("dropped", .text (describeSignature dropped))]
  | synthesizedCallback type context => [("ty", .text type), ("context", .text context)]
  | unresolvedType name context => [("name", .text name), ("context", .text context)]
  | duplicateEnumerator enumName variant =>
    [("enum_name", .text enumName), ("variant", .text variant)]
  | emittedEnum name values storage =>
    [("name", .text name), ("values", .count values), ("repr", .text storage)]
  | emittedStruct name fields => [("name", .text name), ("fields", .count fields)]
  | emittedTypedef name target => [("name", .text name), ("target", .text target)]
  | emittedClass name fields methods =>
    [("name", .text name), ("fields", .count fields), ("methods", .count methods)]
  | emittedBinding symbol params => [("symbol", .text symbol), ("params", .count params)]
  | duplicateHelper name helper => [("name", .text name), ("helper", .text helper)]
  | emittedHelpers name => [("name", .text name)]
  | emittedCallback name => [("name", .text name)]
  | emittedWrapper symbol isUnsafe => [("symbol", .text symbol), ("is_unsafe", .flag isUnsafe)]
  | emittedOwner name owned destroy =>
    [("name", .text name), ("owned", .text owned), ("destroy", .text destroy)]
  | generated scope totals =>
    [("namespace", .text scope), ("functions", .count totals.functions),
      ("structs", .count totals.structs), ("enums", .count totals.enums),
      ("typedefs", .count totals.typedefs), ("classes", .count totals.classes),
      ("callbacks", .count totals.callbacks), ("mapped_types", .count totals.mappedTypes)]

/-- The events that matter at least as much as `least`. -/
def atLeast (least : Level) (events : List Event) : List Event :=
  events.filter (·.level.rank ≤ least.rank)

end Event

end ForeignBindings
