import ForeignBindings.Layout
import ForeignBindings.Options

/-!
# Sections of the output

The output consists of six files in a fixed order, each of which only uses names that an earlier one
defines.
-/

namespace ForeignBindings

/-- The sections, each after those it depends on. -/
inductive SectionKind
  | types | bindings | memory | callbacks | wrappers | extensions
deriving Repr, DecidableEq

namespace SectionKind

def all : List SectionKind := [types, bindings, memory, callbacks, wrappers, extensions]

/-- The name of a section's file without its ending, which is also its module. -/
def stem : SectionKind → String
  | types => "types"
  | bindings => "bindings"
  | memory => "memory"
  | callbacks => "callbacks"
  | wrappers => "wrappers"
  | extensions => "extensions"

def order : SectionKind → Nat
  | types => 0
  | bindings => 1
  | memory => 2
  | callbacks => 3
  | wrappers => 4
  | extensions => 5

/-- What a section's first line calls it. -/
def title : SectionKind → String
  | types => "Native types"
  | bindings => "Raw FFI bindings"
  | memory => "Marshaling helpers"
  | callbacks => "Callback types"
  | wrappers => "Safe wrappers"
  | extensions => "Extensions"

/-- The lines at the top of a section that depends on the declarations. -/
def header (kind : SectionKind) (options : Options) : List String :=
  [s!"//! {kind.title} for namespace `{options.scope}` (native library `{options.library}`).",
    "//!",
    "//! Generated by bnd-layered. Do not edit.",
    "",
    "#![allow(non_camel_case_types, non_snake_case, non_upper_case_globals)]",
    "#![allow(dead_code, unused_imports, clippy::all)]",
    ""]

end SectionKind

structure Section where
  fileName : String
  content : String
  order : Nat
deriving Repr, DecidableEq

structure GeneratedCode where
  sections : List Section
deriving Repr, DecidableEq

/-- The first section whose file name ends with `ending`. -/
def GeneratedCode.section? (code : GeneratedCode) (ending : String) : Option Section :=
  code.sections.find? fun s => ending.toList.isSuffixOf s.fileName.toList

end ForeignBindings
