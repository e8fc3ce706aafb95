import ForeignBindings.FirstOccurrence
import ForeignBindings.Identifier.Case
import ForeignBindings.Section.Bindings

/-!
# The wrappers section

Every function gets a wrapper that calls its raw binding. Constant strings are copied on the way
in and returned strings on the way out; a wrapper that still hands over an address is unsafe.
Every struct and every class that is not abstract gets an owning type that releases its native
object when dropped.
-/

namespace ForeignBindings
open Identifier Layout

/-! ## Call-throughs -/

/-- A parameter of a wrapper; a copied one is taken as a borrowed string. -/
structure WrapperParam where
  name : String
  type : String
  isCopied : Bool
deriving Repr, DecidableEq

/-- What the call hands over for a parameter. -/
def WrapperParam.argument (param : WrapperParam) : String :=
  if param.isCopied then param.name ++ ".as_ptr()" else param.name

structure CallThrough where
  documentation : List String
  isUnsafe : Bool
  symbol : String
  params : List WrapperParam
  /-- The type of the result of the binding. -/
  result : Option String
  /-- Whether the result is copied into a string. -/
  returnsString : Bool
deriving Repr, DecidableEq

namespace TypeMapping

/-- Whether a parameter of the type is copied from a borrowed string. A buffer that the callee may
write to is not. -/
def isCopied (m : TypeMapping) : Bool := m.marshalHint == some .ownedString && m.isConst

/-- Whether a wrapper hands over an address as it stands. -/
def exposesAddress (m : TypeMapping) : Bool :=
  (m.marshalHint == some .ownedString && !m.isConst) || m.paramIsRaw

end TypeMapping

namespace BoundFunction

/-- The parameter of a wrapper for a native one. -/
def wrapperParam (name : String) (mapping : TypeMapping) : WrapperParam :=
  if mapping.isCopied then ⟨name, "&str", true⟩ else ⟨name, mapping.paramAbi, false⟩

/-- Whether calling the wrapper of a function is unsafe. -/
def needsUnsafe (map : String → TypeMapping) (f : BoundFunction) : Bool :=
  (f.nativeParams map).any (·.2.exposesAddress)

def wrapperDocs (map : String → TypeMapping) (f : BoundFunction) : List String :=
  docLines f.decl.documentation ++
    (if f.decl.documentation.isNone then [s!"/// Calls [`bindings::{f.emittedName}`]."] else []) ++
    if f.needsUnsafe map then
      ["///", "/// # Safety",
        "/// Pointer and handle arguments must satisfy the native function's contract."]
    else []

def callThrough (map : String → TypeMapping) (f : BoundFunction) : CallThrough where
  documentation := f.wrapperDocs map
  isUnsafe := f.needsUnsafe map
  symbol := f.emittedName
  params := (f.nativeParams map).map fun (name, mapping) => wrapperParam name mapping
  result := f.nativeResult map
  returnsString := (map f.decl.returnType).marshalHint == some .ownedString

end BoundFunction

namespace CallThrough

/-- The type of the result of the wrapper. -/
def wrappedResult (w : CallThrough) : Option String :=
  if w.returnsString then some "String" else w.result

def lines (w : CallThrough) : List String :=
  let unsafety := if w.isUnsafe then "unsafe " else ""
  let params := commaSeparated (w.params.map fun p => s!"{p.name}: {p.type}")
  let copies := (w.params.filter (·.isCopied)).map fun p =>
    s!"let {p.name} = to_native_string({p.name});"
  let arguments := commaSeparated (w.params.map (·.argument))
  let call := s!"bindings::{w.symbol}({arguments})"
  w.documentation ++
    block s!"pub {unsafety}fn {w.symbol}({params}){resultSuffix w.wrappedResult}"
      (copies ++
        [if w.returnsString then s!"unsafe \x7b from_native_string({call}) \x7d"
          else s!"unsafe \x7b {call} \x7d"])

end CallThrough

/-! ## Owning types -/

/-- How an owning type reaches the function that releases its native object. -/
inductive Release
  /-- Through the raw binding that the declarations give it. -/
  | binding
  /-- Through an external function of the section, which the first type that uses it declares. -/
  | sectionExtern (declares : Bool)
deriving Repr, DecidableEq

structure OwnerItem where
  library : String
  abi : String
  /-- The name of the native type, as written. -/
  nativeName : String
  /-- The identifier of the owned type. -/
  type : String
  owner : String
  /-- The native function that releases an object. -/
  destroy : String
  release : Release
deriving Repr, DecidableEq

namespace OwnerItem

/-- The identifier of the releasing function. -/
def destroyName (item : OwnerItem) : String := ident item.destroy "destroy"

/-- The path under which the releasing function is called. -/
def releasePath (item : OwnerItem) : String :=
  match item.release with
  | .binding => "bindings::" ++ item.destroyName
  | .sectionExtern _ => item.destroyName

/-- The declaration of the releasing function, where the type comes with one. -/
def externLines (item : OwnerItem) : List String :=
  match item.release with
  | .sectionExtern true =>
    linkAttribute item.library ::
      block (externHead item.abi) [s!"fn {item.destroyName}(handle: NativeHandle);"] ++ [""]
  | .sectionExtern false | .binding => []

def lines (item : OwnerItem) : List String :=
  item.externLines ++
    [s!"/// Owning handle to a native [`{item.type}`], released through `{item.destroy}`.",
      "#[derive(Debug)]"] ++
    block s!"pub struct {item.owner}" ["raw: NativeHandle,"] ++
    "" :: block s!"impl {item.owner}"
      (["/// Takes ownership of `raw`.",
          "///",
          "/// # Safety",
          s!"/// `raw` must be null or a live native `{item.nativeName}` that nothing else",
          "/// releases."] ++
        block "pub unsafe fn from_raw(raw: NativeHandle) -> Self" ["Self \x7b raw \x7d"] ++
        "" :: block "pub fn as_raw(&self) -> NativeHandle" ["self.raw"] ++
        "" :: "/// Gives up ownership without releasing." ::
        block "pub fn into_raw(self) -> NativeHandle"
          ["let raw = self.raw;", "::core::mem::forget(self);", "raw"] ++
        "" :: "/// Releases the native object now. Idempotent." ::
        block "pub fn release(&mut self)"
          (block "if !self.raw.is_null()"
            [s!"unsafe \x7b {item.releasePath}(self.raw) \x7d;",
              "self.raw = NativeHandle::NULL;"])) ++
    "" :: block s!"impl Drop for {item.owner}"
      (block "fn drop(&mut self)" ["self.release();"])

end OwnerItem

/-! ## The section -/

namespace WrappersSection

/-- The owning type for a native type. The declared symbols tell whether its releasing function
has a raw binding. -/
def ownerItem (options : Options) (declared : List String) (name : String) (isFirst : Bool) :
    OwnerItem where
  library := options.library
  abi := options.convention.abi
  nativeName := name
  type := ident name "Unnamed"
  owner := "Owned" ++ bare (ident name "Unnamed")
  destroy := destroySymbol name
  release := if declared.contains (destroySymbol name) then .binding else .sectionExtern isFirst

def callThroughs (map : String → TypeMapping) (set : DeclarationSet) : List CallThrough :=
  set.functions.map (·.callThrough map)

def owners (options : Options) (set : DeclarationSet) : List OwnerItem :=
  let declared := set.functions.map (·.symbol)
  (markFirst destroySymbol [] set.ownedTypes).map fun (name, isFirst) =>
    ownerItem options declared name isFirst

def events (map : String → TypeMapping) (options : Options) (set : DeclarationSet) : List Event :=
  (callThroughs map set).map (fun w => .emittedWrapper w.symbol w.isUnsafe) ++
    (owners options set).map fun o => .emittedOwner o.nativeName o.owner o.destroy

/-- The functions that the wrappers are built on. -/
def preamble : List String :=
  ["use ::std::ffi::\x7bCStr, CString\x7d;",
    "",
    "use super::bindings;",
    "use super::types::*;",
    "",
    "/// Copies `value` into a NUL-terminated buffer, truncating at the first",
    "/// interior NUL."] ++
    block "fn to_native_string(value: &str) -> CString"
      ["let end = value.find('\\0').unwrap_or(value.len());",
        "CString::new(&value[..end]).unwrap_or_default()"] ++
    ["",
      "/// Copies a native string into an owned `String`; null becomes empty.",
      "///",
      "/// # Safety",
      "/// `ptr` must be null or point to a NUL-terminated buffer."] ++
    block "unsafe fn from_native_string(ptr: *const ::core::ffi::c_char) -> String"
      ["if ptr.is_null() \x7b",
        "    String::new()",
        "\x7d else \x7b",
        "    unsafe \x7b CStr::from_ptr(ptr) \x7d.to_string_lossy().into_owned()",
        "\x7d"]

def lines (map : String → TypeMapping) (options : Options) (set : DeclarationSet) : List String :=
  preamble ++ spaced ((callThroughs map set).map (·.lines)) ++
    spaced ((owners options set).map (·.lines))

end WrappersSection

end ForeignBindings
