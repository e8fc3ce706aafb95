import ForeignBindings.Event
import ForeignBindings.FirstOccurrence
import ForeignBindings.Identifier.Case
import ForeignBindings.Section

/-!
# The memory section

Every plain-data type gets a group of six helpers that allocate, free and copy its values. The
helpers are named for the type in snake case, and of several types with one such name the first
gets the group.
-/

namespace ForeignBindings
open Identifier Layout

/-- The helpers of one type. -/
structure HelperGroup where
  /-- The identifier of the type. -/
  type : String
  /-- The name of the type inside the names of the helpers. -/
  stem : String
deriving Repr, DecidableEq

namespace HelperGroup

def ofName (name : String) : HelperGroup := ⟨ident name "Unnamed", snakeCase name⟩

def functionNames (g : HelperGroup) : List String :=
  ["alloc_" ++ g.stem, "free_" ++ g.stem, g.stem ++ "_to_native", g.stem ++ "_from_native",
    g.stem ++ "_array_to_native", "free_" ++ g.stem ++ "_array"]

def lines (g : HelperGroup) : List String :=
  [s!"// ---- {g.type} ----",
    "",
    s!"/// Allocates a zeroed native buffer sized for one [`{g.type}`].",
    "///",
    s!"/// The caller owns the returned handle and releases it with [`free_{g.stem}`]",
    "/// exactly once."] ++
    block s!"pub fn alloc_{g.stem}() -> NativeHandle" [s!"allocate(Layout::new::<{g.type}>())"] ++
    ["",
      s!"/// Releases a buffer obtained from [`alloc_{g.stem}`] or [`{g.stem}_to_native`].",
      "///",
      "/// # Safety",
      "/// `handle` must come from one of those functions and must not be used",
      "/// afterwards."] ++
    block s!"pub unsafe fn free_{g.stem}(handle: NativeHandle)"
      [s!"unsafe \x7b release(handle, Layout::new::<{g.type}>()) \x7d"] ++
    ["",
      "/// Copies `value` into freshly allocated native memory.",
      "///",
      "/// Ownership of the returned handle passes to the caller, who releases it",
      s!"/// with [`free_{g.stem}`] exactly once."] ++
    block s!"pub fn {g.stem}_to_native(value: &{g.type}) -> NativeHandle"
      [s!"let handle = alloc_{g.stem}();",
        s!"unsafe \x7b handle.as_ptr::<{g.type}>().write(*value) \x7d;",
        "handle"] ++
    ["",
      s!"/// Copies a [`{g.type}`] out of native memory. The pointer is neither taken over",
      "/// nor released.",
      "///",
      "/// # Safety",
      s!"/// `handle` must point to a valid, aligned `{g.type}`."] ++
    block s!"pub unsafe fn {g.stem}_from_native(handle: NativeHandle) -> {g.type}"
      [s!"unsafe \x7b handle.as_ptr::<{g.type}>().read() \x7d"] ++
    ["",
      "/// Copies `values` into one contiguous native array.",
      "///",
      "/// Ownership of the returned handle passes to the caller, who releases it",
      s!"/// with [`free_{g.stem}_array`] passing the same length. Returns",
      "/// [`NativeHandle::NULL`] if the array size overflows."] ++
    block s!"pub fn {g.stem}_array_to_native(values: &[{g.type}]) -> NativeHandle"
      ([s!"let Ok(layout) = Layout::array::<{g.type}>(values.len()) else \x7b",
          "    return NativeHandle::NULL;",
          "\x7d;",
          "let handle = allocate(layout);",
          "unsafe \x7b",
          s!"    ::core::ptr::copy_nonoverlapping(values.as_ptr(), handle.as_ptr::<{g.type}>(), " ++
            "values.len())",
          "\x7d;",
          "handle"]) ++
    ["",
      s!"/// Releases an array obtained from [`{g.stem}_array_to_native`].",
      "///",
      "/// # Safety",
      s!"/// `handle` and `len` must match a previous [`{g.stem}_array_to_native`] call."] ++
    block s!"pub unsafe fn free_{g.stem}_array(handle: NativeHandle, len: usize)"
      (block s!"if let Ok(layout) = Layout::array::<{g.type}>(len)"
        ["unsafe \x7b release(handle, layout) \x7d"])

end HelperGroup

namespace MemorySection

/-- The functions that the groups are built on. -/
def preamble : List String :=
  ["use ::std::alloc::\x7bLayout, alloc_zeroed, dealloc, handle_alloc_error\x7d;",
    "",
    "use super::types::*;",
    "",
    "/// Zero-sized layouts get a dangling, aligned, non-null handle."] ++
    block "fn allocate(layout: Layout) -> NativeHandle"
      (block "if layout.size() == 0" ["return NativeHandle(layout.align());"] ++
        ["let ptr = unsafe \x7b alloc_zeroed(layout) \x7d;"] ++
        block "if ptr.is_null()" ["handle_alloc_error(layout);"] ++
        ["NativeHandle::from_ptr(ptr)"]) ++
    ["",
      "/// # Safety",
      "/// `handle` must come from [`allocate`] with the same `layout`."] ++
    block "unsafe fn release(handle: NativeHandle, layout: Layout)"
      (block "if layout.size() != 0 && !handle.is_null()"
        ["unsafe \x7b dealloc(handle.as_ptr::<u8>(), layout) \x7d;"])

/-- The functions that the preamble defines. -/
def preambleNames : List String := ["allocate", "release"]

/-- The groups for some types. -/
def items (names : List String) : List HelperGroup := (firstBy snakeCase [] names).map .ofName

/-- The functions that the section defines. -/
def functionNames (names : List String) : List String :=
  preambleNames ++ (items names).flatMap (·.functionNames)

def events (names : List String) : List Event :=
  (markFirst snakeCase [] names).map fun (name, isFirst) =>
    if isFirst then .emittedHelpers name else .duplicateHelper name (snakeCase name)

def lines (names : List String) : List String := preamble ++ spaced ((items names).map (·.lines))

end MemorySection

end ForeignBindings
