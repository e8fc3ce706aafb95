import ForeignBindings.Callback
import ForeignBindings.Event
import ForeignBindings.Section
import ForeignBindings.TypeMapping

/-!
# The callbacks section

Every callback becomes a function type, a function that turns a callable into a handle, and a
function that recovers the callable from a handle.
-/

namespace ForeignBindings
open Identifier Layout

structure CallbackItem where
  documentation : Option String
  name : String
  abi : String
  params : List String
  result : Option String
  wrapName : String
  unwrapName : String
deriving Repr, DecidableEq

namespace Callback

/-- The types that a callback spells. -/
def spelledTypes (c : Callback) : List String :=
  c.signature.parameterTypes ++ [c.signature.returnType]

def item (map : String → TypeMapping) (convention : CallingConvention) (c : Callback) :
    CallbackItem where
  documentation := c.documentation
  name := ident c.name "Callback"
  abi := convention.abi
  params := c.signature.parameterTypes.map (map · |>.paramAbi)
  result :=
    let mapping := map c.signature.returnType
    if mapping.isVoid then none else some mapping.abiName
  wrapName := "wrap_" ++ snakeCase c.name
  unwrapName := "unwrap_" ++ snakeCase c.name

end Callback

namespace CallbackItem

/-- The source of the function type. Its documentation keeps the blank characters at line ends. -/
def typeLines (item : CallbackItem) : List String :=
  (match item.documentation with
    | none => []
    | some text => (Text.linesOf text).map ("/// " ++ ·)) ++
    [s!"pub type {item.name} = unsafe extern \"{item.abi}\" " ++
      s!"fn({commaSeparated item.params}){resultSuffix item.result};"]

/-- The source of the function from a callable to a handle. -/
def wrapLines (item : CallbackItem) : List String :=
  s!"/// Turns a [`{item.name}`] into the function pointer handle the native side expects." ::
    block s!"pub fn {item.wrapName}(callback: {item.name}) -> NativeHandle"
      ["NativeHandle(callback as *const () as usize)"]

/-- The source of the function from a handle to a callable. -/
def unwrapLines (item : CallbackItem) : List String :=
  [s!"/// Recovers a [`{item.name}`] from a native function pointer; `None` for null.",
    "///",
    "/// # Safety",
    "/// `handle` must be null or a function pointer with exactly this signature."] ++
    block s!"pub unsafe fn {item.unwrapName}(handle: NativeHandle) -> Option<{item.name}>"
      ["if handle.is_null() \x7b",
        "    None",
        "\x7d else \x7b",
        s!"    Some(unsafe \x7b ::core::mem::transmute::<usize, {item.name}>(handle.0) \x7d)",
        "\x7d"]

def lines (item : CallbackItem) : List String :=
  item.typeLines ++ "" :: item.wrapLines ++ "" :: item.unwrapLines

end CallbackItem

namespace CallbacksSection

def items (map : String → TypeMapping) (convention : CallingConvention)
    (callbacks : List Callback) : List CallbackItem :=
  callbacks.map (·.item map convention)

def events (callbacks : List Callback) : List Event := callbacks.map (.emittedCallback ·.name)

def lines (map : String → TypeMapping) (convention : CallingConvention)
    (callbacks : List Callback) : List String :=
  "use super::types::*;" :: spaced ((items map convention callbacks).map (·.lines))

end CallbacksSection

end ForeignBindings
