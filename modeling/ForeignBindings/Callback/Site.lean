import ForeignBindings.Callback
import ForeignBindings.Declaration.Set
import ForeignBindings.Event

/-!
# Where callbacks come from

A site is a place in a declaration set where a type stands. Every site whose type is a function
pointer defines a callback, named for the declaration and its member. Sites are visited in a fixed
order: functions, fields of structs, fields of classes, typedefs.
-/

namespace ForeignBindings
open CType Text

/-- A place where a type stands. -/
structure Site where
  type : String
  /-- The name of the callback that the type defines if it is a function pointer. -/
  callbackName : String
  /-- The place, in words. -/
  context : String
deriving Repr, DecidableEq

namespace Site

/-- The name of a parameter, or of its position. -/
def memberName (parameter : Parameter) (position : Nat) : String :=
  if parameter.name = "" then s!"arg{position}" else parameter.name

/-- The return type and the parameters of a function. -/
def ofFunction (f : BoundFunction) : List Site :=
  ⟨f.decl.returnType, ForeignBindings.callbackName f.symbol "",
      s!"the return type of `{f.symbol}`"⟩ ::
    f.decl.parameters.mapIdx fun i p =>
      let member := memberName p i
      ⟨p.type, ForeignBindings.callbackName f.symbol member,
        s!"parameter `{member}` of `{f.symbol}`"⟩

def ofFields (owner : String) (kind : Kind) (fields : List Field) : List Site :=
  fields.map fun field =>
    ⟨field.type, ForeignBindings.callbackName owner field.name,
      s!"field `{field.name}` of {kind.word} `{owner}`"⟩

def ofTypedef (decl : TypedefDecl) : Site :=
  ⟨decl.underlyingType, ForeignBindings.callbackName decl.name "", s!"typedef `{decl.name}`"⟩

/-- All sites of a set, in the order in which they are visited. -/
def ofSet (set : DeclarationSet) : List Site :=
  set.functions.flatMap ofFunction ++
    set.structs.flatMap (fun s => ofFields s.name .struct s.fields) ++
    set.classes.flatMap (fun c => ofFields c.name .classType c.fields) ++
    set.typedefs.map ofTypedef

/-- The callback that a site defines. -/
def callback? (site : Site) : Option Callback :=
  (FunctionPointer.parse? site.type).map fun signature =>
    { name := site.callbackName
      signature
      documentation :=
        let type := String.ofList (trim site.type.toList)
        some s!"Native callback `{type}` used by {site.context}." }

/-- Whether a text stands somewhere inside another. -/
def occursIn (needle : List Char) : List Char → Bool
  | [] => needle.isEmpty
  | c :: cs => needle.isPrefixOf (c :: cs) || occursIn needle cs

/-- Whether a type holds the start of a function-pointer marker. -/
def looksLikeCallback (type : String) : Bool :=
  occursIn ['(', '*'] type.toList || occursIn ['(', ' ', '*'] type.toList

end Site

/-- The warning about a callback that a table turns down for its signature. -/
def Offer.warnings (callback : Callback) : Offer → List Event
  | .collides kept => [.callbackCollision callback.name kept callback.signature]
  | .added | .repeated => []

namespace CallbackTable

/-- Adds the callback that a site defines, if any, and reports what became of it. -/
def visit (table : CallbackTable) (site : Site) : CallbackTable × List Event :=
  match site.callback? with
  | none =>
    (table,
      if Site.looksLikeCallback site.type then [.unmatchedCallback site.type site.context] else [])
  | some callback =>
    let offer := table.offer callback
    (table.insert callback,
      (if offer = .added then [.synthesizedCallback site.type site.context] else []) ++
        offer.warnings callback)

def visitAll (table : CallbackTable) : List Site → CallbackTable × List Event
  | [] => (table, [])
  | site :: rest =>
    let (next, events) := table.visit site
    let (final, later) := next.visitAll rest
    (final, events ++ later)

/-- The callbacks of a declaration set, and the events of finding them. -/
def ofSet (set : DeclarationSet) : CallbackTable × List Event := empty.visitAll (Site.ofSet set)

end CallbackTable

end ForeignBindings
