import ForeignBindings.CType.Extents
import ForeignBindings.CType.FunctionPointer
import ForeignBindings.CType.Primitive
import ForeignBindings.CType.Shape
import ForeignBindings.Identifier
import ForeignBindings.TypeMapping

/-!
# Mapping a foreign type

`mapType` maps every text. Primitive types come from a table, character pointers become strings,
other pointers to primitives stay typed, and every other address is a handle without structure,
which is what keeps a type that points at itself finite. A name that no table knows is used as it
is.

Extents are taken off from the left: a known one makes an array of what is left, an unknown one
makes a pointer.
-/

namespace ForeignBindings
open CType Text

namespace TypeMapping

/-- Maps a type without extents. A type with nothing left to name is mapped like `void`. -/
def ofShape (spelling : String) (shape : Shape) : TypeMapping :=
  match shape.characterPointer? with
  | some isConst => plain spelling isConst .characters
  | none =>
    match primitive? shape.base, shape.indirection with
    | some name, 0 => plain spelling shape.isConst (.scalar name)
    | some name, extra + 1 =>
      plain spelling shape.isConst (if shape.base = "void" then .handle else .pointer name extra)
    | none, _ + 1 => plain spelling shape.isConst .handle
    | none, 0 =>
      if shape.base = "" then plain "void" false (.scalar "()")
      else plain spelling shape.isConst (.named (Identifier.ident shape.base "()"))

/-- Maps a type without extents, or a function pointer. -/
def ofElement (cs : List Char) : TypeMapping :=
  let spelling := String.ofList cs
  if (FunctionPointer.read? cs).isSome then plain spelling false .handle
  else ofShape spelling (shapeOf cs)

/-- Maps the type `base` with extents after it. -/
def ofExtents (base : List Char) : List Extent → TypeMapping
  | [] => ofElement base
  | some length :: extents =>
    array (String.ofList base ++ renderExtents (some length :: extents)) length
      (ofExtents base extents)
  | [none] =>
    (ofShape (String.ofList base) (shapeOf (base ++ ['*']))).withSpelling
      (String.ofList base ++ renderExtents [none])
  | none :: extents =>
    (ofExtents base extents).withSpelling (String.ofList base ++ renderExtents (none :: extents))

def ofText (cs : List Char) : TypeMapping :=
  let spelling := String.ofList cs
  if (FunctionPointer.read? cs).isSome then plain spelling false .handle
  else
    match splitExtents cs with
    | (base, []) => ofShape spelling (shapeOf base)
    | (base, extents) => (ofExtents base extents).withSpelling spelling

end TypeMapping

def mapType (type : String) : TypeMapping := TypeMapping.ofText (trim type.toList)

end ForeignBindings
