import ForeignBindings.Declaration
import ForeignBindings.Document.Record
import ForeignBindings.Literal

/-!
# Declarations in a document

A declaration is a table whose entry `kind` says which fields the others are. Entries that no
field is called after are ignored, and so is the order of entries. The value of an enumerator is a
number or a C integer literal.
-/

namespace ForeignBindings
open Document

/-! ## Parts of declarations -/

def Parameter.shape : RecordShape := ⟨"ParamDecl", ["name", "type"]⟩

def Field.shape : RecordShape := ⟨"FieldDecl", ["name", "type"]⟩

/-- A name and a type, as far as they are given. -/
structure GivenMember where
  name : Option String := none
  type : Option String := none

/-- Reads one entry of a parameter or field. -/
def GivenMember.read (given : GivenMember) : String × Value → Except DocumentError GivenMember
  | ("name", v) => do return { given with name := some (← v.text) }
  | ("type", v) => do return { given with type := some (← v.text) }
  | _ => .ok given

/-- Reads a parameter, whose name may be left out. -/
def Parameter.decode (v : Value) : Except DocumentError Parameter := do
  let given ← (← shape.entries v).foldlM GivenMember.read {}
  let type ← shape.require v "type" given.type
  shape.checkLength v
  return ⟨given.name.getD "", type⟩

def Field.decode (v : Value) : Except DocumentError Field := do
  let given ← (← shape.entries v).foldlM GivenMember.read {}
  let name ← shape.require v "name" given.name
  let type ← shape.require v "type" given.type
  shape.checkLength v
  return ⟨name, type⟩

/-- Reads the value of an enumerator as a 64-bit pattern. -/
def decodePattern : Value → Except DocumentError UInt64
  | .natural n => .ok n
  | .integer i => .ok i.toUInt64
  | .string s =>
    match Literal.parse? s with
    | some n => .ok n
    | none => .error (.invalidEnumValue s)
  | _ => .error .noEnumValue

namespace Enumerator

def shape : RecordShape := ⟨"EnumValue", ["name", "value"]⟩

/-- The fields of an enumerator, as far as they are given. -/
structure Given where
  name : Option String := none
  value : Option UInt64 := none

def Given.read (given : Given) : String × Value → Except DocumentError Given
  | ("name", v) => do return { given with name := some (← v.text) }
  | ("value", v) => do return { given with value := some (← decodePattern v) }
  | _ => .ok given

def decode (v : Value) : Except DocumentError Enumerator := do
  let given ← (← shape.entries v).foldlM Given.read {}
  let name ← shape.require v "name" given.name
  let value ← shape.require v "value" given.value
  shape.checkLength v
  return ⟨name, value⟩

end Enumerator

/-! ## Declarations without parts that are declarations -/

namespace FunctionDecl

def shape : RecordShape :=
  ⟨"FunctionDecl",
    ["name", "return_type", "parameters", "documentation", "is_virtual", "is_static"]⟩

/-- The fields of a function, as far as they are given. -/
structure Given where
  name : Option String := none
  returnType : String := "void"
  parameters : List Parameter := []
  documentation : Option String := none
  isVirtual : Bool := false
  isStatic : Bool := false

def Given.read (given : Given) : String × Value → Except DocumentError Given
  | ("name", v) => do return { given with name := some (← v.text) }
  | ("return_type", v) => do return { given with returnType := ← v.text }
  | ("parameters", v) => do return { given with parameters := ← v.listOf Parameter.decode }
  | ("documentation", v) => do return { given with documentation := ← v.optionalText }
  | ("is_virtual", v) => do return { given with isVirtual := ← v.flag }
  | ("is_static", v) => do return { given with isStatic := ← v.flag }
  | _ => .ok given

def decode (v : Value) : Except DocumentError FunctionDecl := do
  let given ← (← shape.entries v).foldlM Given.read {}
  let name ← shape.require v "name" given.name
  shape.checkLength v
  return ⟨name, given.returnType, given.parameters, given.documentation, given.isVirtual,
    given.isStatic⟩

end FunctionDecl

namespace StructDecl

def shape : RecordShape := ⟨"StructDecl", ["name", "fields", "documentation"]⟩

/-- The fields of a struct, as far as they are given. -/
structure Given where
  name : Option String := none
  fields : List Field := []
  documentation : Option String := none

def Given.read (given : Given) : String × Value → Except DocumentError Given
  | ("name", v) => do return { given with name := some (← v.text) }
  | ("fields", v) => do return { given with fields := ← v.listOf Field.decode }
  | ("documentation", v) => do return { given with documentation := ← v.optionalText }
  | _ => .ok given

def decode (v : Value) : Except DocumentError StructDecl := do
  let given ← (← shape.entries v).foldlM Given.read {}
  let name ← shape.require v "name" given.name
  shape.checkLength v
  return ⟨name, given.fields, given.documentation⟩

end StructDecl

namespace EnumDecl

def shape : RecordShape := ⟨"EnumDecl", ["name", "values", "documentation"]⟩

/-- The fields of an enum, as far as they are given. -/
structure Given where
  name : Option String := none
  values : List Enumerator := []
  documentation : Option String := none

def Given.read (given : Given) : String × Value → Except DocumentError Given
  | ("name", v) => do return { given with name := some (← v.text) }
  | ("values", v) => do return { given with values := ← v.listOf Enumerator.decode }
  | ("documentation", v) => do return { given with documentation := ← v.optionalText }
  | _ => .ok given

def decode (v : Value) : Except DocumentError EnumDecl := do
  let given ← (← shape.entries v).foldlM Given.read {}
  let name ← shape.require v "name" given.name
  shape.checkLength v
  return ⟨name, given.values, given.documentation⟩

end EnumDecl

namespace TypedefDecl

def shape : RecordShape := ⟨"TypedefDecl", ["name", "underlying_type", "documentation"]⟩

/-- The fields of a typedef, as far as they are given. -/
structure Given where
  name : Option String := none
  underlyingType : Option String := none
  documentation : Option String := none

def Given.read (given : Given) : String × Value → Except DocumentError Given
  | ("name", v) => do return { given with name := some (← v.text) }
  | ("underlying_type", v) => do return { given with underlyingType := some (← v.text) }
  | ("documentation", v) => do return { given with documentation := ← v.optionalText }
  | _ => .ok given

def decode (v : Value) : Except DocumentError TypedefDecl := do
  let given ← (← shape.entries v).foldlM Given.read {}
  let name ← shape.require v "name" given.name
  let underlyingType ← shape.require v "underlying_type" given.underlyingType
  shape.checkLength v
  return ⟨name, underlyingType, given.documentation⟩

end TypedefDecl

/-! ## Declarations -/

namespace Declaration

/-- Reads the kind of a declaration. Below the top of a tree, a number may stand for a kind by its
position. -/
def decodeKind (mayBeNumber : Bool) : Value → Except DocumentError Kind
  | .string s =>
    match Kind.all.find? (·.tag == s) with
    | some kind => .ok kind
    | none => .error (.unknownVariant s (Kind.all.map (·.tag)))
  | .natural n =>
    if mayBeNumber then
      match Kind.all[n.toNat]? with
      | some kind => .ok kind
      | none => .error (.invalidValue (Value.natural n).describe "variant index 0 <= i < 6")
    else .error ((Value.natural n).unexpected "variant identifier")
  | v => .error (v.unexpected "variant identifier")

/-- Refuses numbers that do not fit in 64 bits, wherever they stand. -/
def refuseWide (v : Value) : Except DocumentError Unit :=
  match v.firstWide? with
  | some found => .error (found.unexpected "any value")
  | none => .ok ()

/-- Reads one entry on the way to the kind of a declaration. -/
def readKind (mayBeNumber : Bool) (found : Option Kind) :
    String × Value → Except DocumentError (Option Kind)
  | ("kind", v) => some <$> decodeKind mayBeNumber v
  | (_, v) => do
    refuseWide v
    return found

/-- The kind that some entries give to a declaration. -/
def kindOfEntries (mayBeNumber : Bool) (entries : List (String × Value)) :
    Except DocumentError Kind := do
  match ← entries.foldlM (readKind mayBeNumber) none with
  | some kind => return kind
  | none => .error (.missingField "kind")

def scopeShape : RecordShape := ⟨"NamespaceDecl", ["name", "declarations"]⟩

/-- The fields of a namespace, as far as they are given. -/
structure GivenScope where
  name : Option String := none
  members : List Declaration := []

def classShape : RecordShape :=
  ⟨"ClassDecl", ["name", "methods", "fields", "documentation", "is_abstract"]⟩

/-- The fields of a class, as far as they are given. -/
structure GivenClass where
  name : Option String := none
  methods : List Declaration := []
  fields : List Field := []
  documentation : Option String := none
  isAbstract : Bool := false

/-- Reads one entry of a class other than its methods. -/
def GivenClass.read (given : GivenClass) : String × Value → Except DocumentError GivenClass
  | ("name", v) => do return { given with name := some (← v.text) }
  | ("fields", v) => do return { given with fields := ← v.listOf Field.decode }
  | ("documentation", v) => do return { given with documentation := ← v.optionalText }
  | ("is_abstract", v) => do return { given with isAbstract := ← v.flag }
  | _ => .ok given

/-- The namespace with the fields that a value gives. -/
def GivenScope.finish (given : GivenScope) (v : Value) : Except DocumentError Declaration := do
  let name ← scopeShape.require v "name" given.name
  scopeShape.checkLength v
  return .scope name given.members

/-- The class with the fields that a value gives. -/
def GivenClass.finish (given : GivenClass) (v : Value) : Except DocumentError Declaration := do
  let name ← classShape.require v "name" given.name
  classShape.checkLength v
  return .classType name given.methods given.fields given.documentation given.isAbstract

mutual

/-- Reads a declaration from a table, or from a list of its kind and its fields in order. -/
def decode : Value → Bool → Except DocumentError Declaration
  | .table entries, mayBeNumber => do
    match ← kindOfEntries mayBeNumber entries with
    | .function => .function <$> FunctionDecl.decode (.table entries)
    | .struct => .struct <$> StructDecl.decode (.table entries)
    | .enum => .enum <$> EnumDecl.decode (.table entries)
    | .typedef => .typedef <$> TypedefDecl.decode (.table entries)
    | .scope => (← readScope entries {}).finish (.table entries)
    | .classType => (← readClass entries {}).finish (.table entries)
  | .list (tag :: parts), mayBeNumber => do
    let kind ← decodeKind mayBeNumber tag
    refuseWide (.list parts)
    match kind with
    | .function => .function <$> FunctionDecl.decode (.list parts)
    | .struct => .struct <$> StructDecl.decode (.list parts)
    | .enum => .enum <$> EnumDecl.decode (.list parts)
    | .typedef => .typedef <$> TypedefDecl.decode (.list parts)
    | .scope => (← readScopeParts parts).finish (.list parts)
    | .classType => (← readClassParts parts).finish (.list parts)
  | .list [], _ => .error (.missingField "kind")
  | .dateTime, _ => .error (.missingField "kind")
  | v, _ => .error (v.unexpected "internally tagged enum Declaration")

/-- Reads a list of declarations below the top of a tree. -/
def decodeMembers : Value → Except DocumentError (List Declaration)
  | .list items => decodeItems items
  | v => .error (v.unexpected "a sequence")

/-- Reads declarations below the top of a tree. -/
def decodeItems : List Value → Except DocumentError (List Declaration)
  | [] => .ok []
  | v :: vs => do
    let decl ← decode v true
    return decl :: (← decodeItems vs)

def readScope : List (String × Value) → GivenScope → Except DocumentError GivenScope
  | [], given => .ok given
  | (key, v) :: entries, given => do
    if key = "name" then readScope entries { given with name := some (← v.text) }
    else if key = "declarations" then
      readScope entries { given with members := ← decodeMembers v }
    else readScope entries given

def readClass : List (String × Value) → GivenClass → Except DocumentError GivenClass
  | [], given => .ok given
  | (key, v) :: entries, given => do
    if key = "methods" then readClass entries { given with methods := ← decodeMembers v }
    else readClass entries (← given.read (key, v))

/-- Reads the fields of a namespace in order. -/
def readScopeParts : List Value → Except DocumentError GivenScope
  | name :: members :: _ => do
    return { name := some (← name.text), members := ← decodeMembers members }
  | [name] => do return { name := some (← name.text) }
  | [] => .ok {}

/-- Reads the fields of a class in order. -/
def readClassParts : List Value → Except DocumentError GivenClass
  | name :: methods :: rest => do
    let given : GivenClass := { name := some (← name.text), methods := ← decodeMembers methods }
    (["fields", "documentation", "is_abstract"].zip rest).foldlM GivenClass.read given
  | [name] => do return { name := some (← name.text) }
  | [] => .ok {}

end

def decodeTree (mayBeNumber : Bool) (v : Value) : Except DocumentError (List Declaration) :=
  v.listOf (decode · mayBeNumber)

end Declaration

end ForeignBindings
