/-!
# Mapped types

What a foreign type becomes in the emitted module. Every view that an emitter takes of a mapping,
such as its name in a signature or whether it is an address, is read off its form.
-/

namespace ForeignBindings

/-- How a value that is no plain scalar crosses the boundary. -/
inductive MarshalHint
  /-- A native address. -/
  | rawPointer
  /-- Characters up to a zero byte, which become a string of their own. -/
  | ownedString
  /-- An array of fixed length. -/
  | fixedArray
deriving Repr, DecidableEq

/-- What a type without extents becomes. -/
inductive Form
  /-- A primitive type of the emitted module. -/
  | scalar (name : String)
  /-- An address without structure. -/
  | handle
  /-- A pointer to characters. -/
  | characters
  /-- A pointer to the primitive `pointee`, through `extra` further pointers. -/
  | pointer (pointee : String) (extra : Nat)
  /-- A type that is declared elsewhere. -/
  | named (name : String)
deriving Repr, DecidableEq

/-- A mapped type: the spelling it was mapped from, whether it is constant, and what it becomes. -/
inductive TypeMapping
  | plain (spelling : String) (isConst : Bool) (form : Form)
  | array (spelling : String) (length : UInt64) (element : TypeMapping)
deriving Repr, DecidableEq

/-- The type of addresses without structure. -/
def nativeHandle : String := "NativeHandle"

/-- The word before what a pointer points at. -/
def pointerTo (isConst : Bool) (pointee : String) : String :=
  (if isConst then "*const " else "*mut ") ++ pointee

/-- Puts `extra` pointers around a type. -/
def throughPointers (type : String) : Nat → String
  | 0 => type
  | extra + 1 => pointerTo false (throughPointers type extra)

namespace Form

/-- The name on the idiomatic side. -/
def targetName (isConst : Bool) : Form → String
  | scalar name => name
  | handle => nativeHandle
  | characters => "String"
  | pointer pointee extra => throughPointers (pointerTo isConst pointee) extra
  | named name => name

/-- The name in native layouts and signatures. -/
def abiName (isConst : Bool) : Form → String
  | characters => pointerTo isConst "::core::ffi::c_char"
  | form => form.targetName isConst

def isPointer : Form → Bool
  | scalar _ | named _ => false
  | handle | characters | pointer .. => true

/-- Whether the form is built from a primitive type. -/
def isPrimitive : Form → Bool
  | scalar _ | pointer .. => true
  | handle | characters | named _ => false

/-- How a value crosses the boundary. -/
def marshalHint : Form → Option MarshalHint
  | scalar _ | named _ => none
  | handle | pointer .. => some .rawPointer
  | characters => some .ownedString

end Form

namespace TypeMapping

def spelling : TypeMapping → String
  | plain spelling .. => spelling
  | array spelling .. => spelling

/-- The same mapping, for another spelling. -/
def withSpelling (spelling : String) : TypeMapping → TypeMapping
  | plain _ isConst form => plain spelling isConst form
  | array _ length element => array spelling length element

/-- Whether the value or what it points at is constant; an array is as constant as its elements. -/
def isConst : TypeMapping → Bool
  | plain _ isConst _ => isConst
  | array _ _ element => element.isConst

/-- The name in native layouts and signatures. -/
def abiName : TypeMapping → String
  | plain _ isConst form => form.abiName isConst
  | array _ length element => s!"[{element.abiName}; {length}]"

/-- The name on the idiomatic side. -/
def targetName : TypeMapping → String
  | plain _ isConst form => form.targetName isConst
  | array spelling length element => (array spelling length element).abiName

def isPointer : TypeMapping → Bool
  | plain _ _ form => form.isPointer
  | array .. => false

/-- Whether the type is built from a primitive type. -/
def isPrimitive : TypeMapping → Bool
  | plain _ _ form => form.isPrimitive
  | array .. => false

/-- Whether the type is an array of fixed length. -/
def isArray : TypeMapping → Bool
  | plain .. => false
  | array .. => true

def arrayLength : TypeMapping → Option UInt64
  | plain .. => none
  | array _ length _ => some length

/-- The mapping of the elements of an array. -/
def element : TypeMapping → Option TypeMapping
  | plain .. => none
  | array _ _ element => some element

/-- How a value crosses the boundary. -/
def marshalHint : TypeMapping → Option MarshalHint
  | plain _ _ form => form.marshalHint
  | array .. => some .fixedArray

/-- Whether the type has no values to return. -/
def isVoid (m : TypeMapping) : Bool := m.targetName == "()"

/-- The type in a native parameter list, where an array is passed as a pointer to its elements. -/
def paramAbi : TypeMapping → String
  | array _ _ element => pointerTo element.isConst element.abiName
  | m => m.abiName

/-- Whether an argument of the type hands over an address. -/
def paramIsRaw (m : TypeMapping) : Bool := m.isArray || m.marshalHint == some .rawPointer

/-- The name that is used on the assumption that it is declared elsewhere. -/
def passthroughName : TypeMapping → Option String
  | array _ _ element => element.passthroughName
  | m => if m.isPrimitive || m.marshalHint.isSome || m.isVoid then none else some m.targetName

end TypeMapping

end ForeignBindings
