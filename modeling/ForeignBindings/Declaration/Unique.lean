import ForeignBindings.Declaration.Set
import ForeignBindings.Event
import ForeignBindings.FirstOccurrence
import ForeignBindings.Text.Blank

/-!
# One declaration for each name

Structs, enums, classes and typedefs share one set of names; function symbols are another. Of
several declarations of one name the first is kept, where structs count before enums, enums before
classes and classes before typedefs. A typedef that only repeats the tag of its own type defines
nothing and is left out without a word.
-/

namespace ForeignBindings
open Text

/-- The words that may stand before a tag. -/
def tagWords : List String := ["struct ", "enum ", "union ", "class "]

/-- Whether a typedef only repeats the name of its underlying type, as `typedef struct Foo Foo`
does. -/
def TypedefDecl.isTagPassthrough (decl : TypedefDecl) : Bool :=
  let underlying := trim decl.underlyingType.toList
  underlying == decl.name.toList ||
    tagWords.any fun word =>
      (word.toList.isPrefixOf? underlying).any fun rest => trim rest == decl.name.toList

namespace DeclarationSet

/-- The typedefs that define a type of their own. -/
def ownTypedefs (set : DeclarationSet) : List TypedefDecl :=
  set.typedefs.filter (!·.isTagPassthrough)

/-- The names that are taken when enums are looked at. -/
def namesBeforeEnums (set : DeclarationSet) : List String := set.structs.map (·.name)

/-- The names that are taken when classes are looked at. -/
def namesBeforeClasses (set : DeclarationSet) : List String :=
  set.namesBeforeEnums ++ set.enums.map (·.name)

/-- The names that are taken when typedefs are looked at. -/
def namesBeforeTypedefs (set : DeclarationSet) : List String :=
  set.namesBeforeClasses ++ set.classes.map (·.name)

def deduplicated (set : DeclarationSet) : DeclarationSet where
  functions := firstBy (·.symbol) [] set.functions
  structs := firstBy (·.name) [] set.structs
  enums := firstBy (·.name) set.namesBeforeEnums set.enums
  typedefs := firstBy (·.name) set.namesBeforeTypedefs set.ownTypedefs
  classes := firstBy (·.name) set.namesBeforeClasses set.classes

/-- The warnings about the declarations that are dropped. -/
def duplicateEvents (set : DeclarationSet) : List Event :=
  (repeatsBy (·.name) [] set.structs).map (fun s => Event.duplicateType s.name .struct) ++
    (repeatsBy (·.name) set.namesBeforeEnums set.enums).map
      (fun e => Event.duplicateType e.name .enum) ++
    (repeatsBy (·.name) set.namesBeforeClasses set.classes).map
      (fun c => Event.duplicateType c.name .classType) ++
    (repeatsBy (·.name) set.namesBeforeTypedefs set.ownTypedefs).map
      (fun t => Event.duplicateType t.name .typedef) ++
    (repeatsBy (·.symbol) [] set.functions).map fun f => Event.duplicateFunction f.symbol

end DeclarationSet

end ForeignBindings
