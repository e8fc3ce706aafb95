import ForeignBindings.Declaration.Set
import ForeignBindings.Event
import ForeignBindings.FirstOccurrence
import ForeignBindings.TypeMapping

/-!
# Types that nothing declares

A name that is used as a type but declared nowhere in the set is emitted as it is, and reported at
the first place that uses it.
-/

namespace ForeignBindings

/-- A place that uses a type. -/
structure TypeUse where
  type : String
  /-- The place, in words. -/
  context : String
deriving Repr, DecidableEq

namespace TypeUse

/-- The return type and the parameters of a function. -/
def ofFunction (f : BoundFunction) : List TypeUse :=
  ⟨f.decl.returnType, s!"return type of `{f.symbol}`"⟩ ::
    f.decl.parameters.map fun p => ⟨p.type, s!"param `{p.name}` of `{f.symbol}`"⟩

def ofFields (owner : String) (fields : List Field) : List TypeUse :=
  fields.map fun field => ⟨field.type, s!"field `{field.name}` of `{owner}`"⟩

/-- All uses in a set: functions, fields of structs, fields of classes, typedefs. -/
def ofSet (set : DeclarationSet) : List TypeUse :=
  set.functions.flatMap ofFunction ++ set.structs.flatMap (fun s => ofFields s.name s.fields) ++
    set.classes.flatMap (fun c => ofFields c.name c.fields) ++
    set.typedefs.map fun t => ⟨t.underlyingType, s!"typedef `{t.name}`"⟩

/-- The name that a use takes for declared elsewhere, with the place, unless it is known. -/
def unknownName? (map : String → TypeMapping) (known : List String) (use : TypeUse) :
    Option (String × String) :=
  match (map use.type).passthroughName with
  | some name => if name ∈ known then none else some (name, use.context)
  | none => none

end TypeUse

/-- One warning for each name that no declaration of the set defines. -/
def unresolvedEvents (map : String → TypeMapping) (set : DeclarationSet) : List Event :=
  (firstBy (·.1) [] ((TypeUse.ofSet set).filterMap (·.unknownName? map set.typeNames))).map
    fun (name, context) => .unresolvedType name context

end ForeignBindings
