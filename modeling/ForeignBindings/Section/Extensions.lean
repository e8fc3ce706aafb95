import ForeignBindings.Section

/-!
# The extensions section

A starting point for helpers written by hand, the same for all declarations.
-/

namespace ForeignBindings.ExtensionsSection
open Layout

def lines : List String :=
  ["//! Hand-written convenience helpers.",
    "//!",
    "//! Generated once as a starting point; nothing here is derived from the",
    "//! declaration tree.",
    "",
    "#![allow(dead_code)]",
    "",
    "use super::types::NativeHandle;",
    "",
    "/// `None` for a null handle."] ++
    block "pub fn non_null(handle: NativeHandle) -> Option<NativeHandle>"
      ["if handle.is_null() \x7b None \x7d else \x7b Some(handle) \x7d"]

end ForeignBindings.ExtensionsSection
