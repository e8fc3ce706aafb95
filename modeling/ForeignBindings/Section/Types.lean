import ForeignBindings.Callback
import ForeignBindings.Declaration.Set
import ForeignBindings.Event
import ForeignBindings.FirstOccurrence
import ForeignBindings.Section
import ForeignBindings.TypeMapping

/-!
# The types section

Enums become transparent words whose values combine bit by bit, structs and classes become records
with native layout, and typedefs become aliases. The section opens with the type of native
handles.
-/

namespace ForeignBindings
open CType Identifier Layout

/-! ## Items -/

/-- The word that stores the values of an enum. -/
inductive Storage
  | word32 | word64
deriving Repr, DecidableEq

def Storage.name : Storage → String
  | word32 => "u32"
  | word64 => "u64"

/-- An emitted enum: its constants by identifier. -/
structure EnumItem where
  documentation : Option String
  name : String
  storage : Storage
  constants : List (String × UInt64)
deriving Repr, DecidableEq

/-- A field of an emitted record; the native spelling of its type is kept when it is an address. -/
structure RecordField where
  native : Option String
  name : String
  type : String
deriving Repr, DecidableEq

/-- An emitted record with native layout. -/
structure RecordItem where
  documentation : Option String
  name : String
  fields : List RecordField
deriving Repr, DecidableEq

/-- A reference from an alias to the callback type of its function pointer. -/
structure CallbackLink where
  native : String
  callback : String
deriving Repr, DecidableEq

structure AliasItem where
  documentation : Option String
  link : Option CallbackLink
  name : String
  target : String
deriving Repr, DecidableEq

inductive TypeItem
  | enum (item : EnumItem)
  | record (item : RecordItem)
  | typeAlias (item : AliasItem)
deriving Repr, DecidableEq

def TypeItem.name : TypeItem → String
  | enum item => item.name
  | record item => item.name
  | typeAlias item => item.name

/-! ## Enums -/

/-- Whether a 64-bit pattern is an unsigned or a sign-extended 32-bit value. -/
def fits32Bits (value : UInt64) : Bool := value ≤ 0xFFFFFFFF || 0xFFFFFFFF80000000 ≤ value

namespace EnumDecl

/-- The word that holds every value of an enum. -/
def storage (decl : EnumDecl) : Storage :=
  if decl.values.all (fits32Bits ·.value) then .word32 else .word64

/-- The values of an enum under their identifiers. A value without a name is called by its
position. -/
def constants (decl : EnumDecl) : List (String × Enumerator) :=
  decl.values.mapIdx fun i v => (ident v.name s!"VALUE_{i}", v)

/-- The bits of a value that its storage keeps. -/
def storedBits (decl : EnumDecl) (value : UInt64) : UInt64 :=
  match decl.storage with
  | .word32 => value.toUInt32.toUInt64
  | .word64 => value

/-- The emitted enum; of several values with one identifier the first is kept. -/
def item (decl : EnumDecl) : EnumItem where
  documentation := decl.documentation
  name := ident decl.name "UnnamedEnum"
  storage := decl.storage
  constants :=
    (firstBy (·.1) [] decl.constants).map fun (name, v) => (name, decl.storedBits v.value)

def events (decl : EnumDecl) : List Event :=
  ((repeatsBy (·.1) [] decl.constants).map fun (_, v) => .duplicateEnumerator decl.name v.name) ++
    [.emittedEnum decl.name decl.values.length decl.storage.name]

end EnumDecl

def operatorLines (operator name method self output body : String) : List String :=
  block s!"impl {operator} for {name}"
    ((if output = "" then [] else ["type Output = Self;", ""]) ++
      block s!"fn {method}({self}, rhs: Self){output}" [body])

def EnumItem.lines (item : EnumItem) : List String :=
  docLines item.documentation ++
    ["#[repr(transparent)]",
      "#[derive(Clone, Copy, Debug, Default, PartialEq, Eq, Hash)]",
      s!"pub struct {item.name}(pub {item.storage.name});",
      ""] ++
    block s!"impl {item.name}"
      ((item.constants.map fun (name, bits) => s!"pub const {name}: Self = Self({bits});") ++
        "" :: block s!"pub const fn bits(self) -> {item.storage.name}" ["self.0"]) ++
    "" :: operatorLines "BitOr" item.name "bitor" "self" " -> Self" "Self(self.0 | rhs.0)" ++
    "" :: operatorLines "BitAnd" item.name "bitand" "self" " -> Self" "Self(self.0 & rhs.0)" ++
    "" :: operatorLines "BitOrAssign" item.name "bitor_assign" "&mut self" "" "self.0 |= rhs.0;"

/-! ## Records and aliases -/

/-- The emitted fields of a struct or class. A field without a name is called by its position. -/
def recordFields (map : String → TypeMapping) (fields : List Field) : List RecordField :=
  fields.mapIdx fun i field =>
    let mapping := map field.type
    { native := if mapping.isPointer then some mapping.spelling else none
      name := ident field.name s!"field{i}"
      type := mapping.abiName }

def StructDecl.item (map : String → TypeMapping) (decl : StructDecl) : RecordItem where
  documentation := decl.documentation
  name := ident decl.name "Unnamed"
  fields := recordFields map decl.fields

namespace ClassDecl

/-- The documentation of a class, with a remark when there are no values of it. -/
def remarks (decl : ClassDecl) : String :=
  let text := decl.documentation.getD ""
  if decl.isAbstract then
    text ++ (if text = "" then "" else "\n\n") ++
      "Abstract native class: only reachable through handles."
  else text

def item (map : String → TypeMapping) (decl : ClassDecl) : RecordItem where
  documentation := if decl.remarks = "" then none else some decl.remarks
  name := ident decl.name "Unnamed"
  fields := recordFields map decl.fields

end ClassDecl

def TypedefDecl.item (map : String → TypeMapping) (decl : TypedefDecl) : AliasItem where
  documentation := decl.documentation
  link :=
    if (FunctionPointer.parse? decl.underlyingType).isSome then
      some ⟨(map decl.underlyingType).spelling, callbackName decl.name ""⟩
    else none
  name := ident decl.name "Unnamed"
  target := (map decl.underlyingType).abiName

def RecordField.lines (field : RecordField) : List String :=
  (match field.native with
    | some type => [s!"/// Native type `{type}`."]
    | none => []) ++
    [s!"pub {field.name}: {field.type},"]

def RecordItem.lines (item : RecordItem) : List String :=
  docLines item.documentation ++
    ["#[repr(C)]", "#[derive(Debug, Clone, Copy)]"] ++
    block s!"pub struct {item.name}" (item.fields.flatMap (·.lines))

def AliasItem.lines (item : AliasItem) : List String :=
  docLines item.documentation ++
    (match item.link with
      | some link =>
        [s!"/// Native function pointer `{link.native}`; " ++
          s!"see [`super::callbacks::{link.callback}`]."]
      | none => []) ++
    [s!"pub type {item.name} = {item.target};"]

def TypeItem.lines : TypeItem → List String
  | enum item => item.lines
  | record item => item.lines
  | typeAlias item => item.lines

/-! ## The section -/

namespace TypesSection

def items (map : String → TypeMapping) (set : DeclarationSet) : List TypeItem :=
  set.enums.map (fun e => TypeItem.enum e.item) ++
    set.structs.map (fun s => TypeItem.record (s.item map)) ++
    set.typedefs.map (fun t => TypeItem.typeAlias (t.item map)) ++
    set.classes.map (fun c => TypeItem.record (c.item map))

def events (map : String → TypeMapping) (set : DeclarationSet) : List Event :=
  set.enums.flatMap (·.events) ++
    set.structs.map (fun s => Event.emittedStruct s.name s.fields.length) ++
    set.typedefs.map (fun t => Event.emittedTypedef t.name (t.item map).target) ++
    set.classes.map fun c => Event.emittedClass c.name c.fields.length c.methods.length

/-- The type of native handles. -/
def preamble : List String :=
  ["use ::core::ops::\x7bBitAnd, BitOr, BitOrAssign\x7d;",
    "",
    "/// Opaque native pointer: an address with no structural access.",
    "#[repr(transparent)]",
    "#[derive(Clone, Copy, Debug, Default, PartialEq, Eq, Hash)]",
    "pub struct NativeHandle(pub usize);",
    ""] ++
    block "impl NativeHandle"
      ("pub const NULL: Self = Self(0);" ::
        "" :: block "pub fn is_null(self) -> bool" ["self.0 == 0"] ++
        "" :: block "pub fn from_ptr<T>(ptr: *const T) -> Self" ["Self(ptr as usize)"] ++
        "" :: block "pub fn as_ptr<T>(self) -> *mut T" ["self.0 as *mut T"])

def lines (map : String → TypeMapping) (set : DeclarationSet) : List String :=
  preamble ++ spaced ((items map set).map (·.lines))

end TypesSection

end ForeignBindings
