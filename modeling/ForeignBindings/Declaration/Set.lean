import ForeignBindings.Declaration

/-!
# Declarations of a tree, by kind

A `DeclarationSet` holds the declarations of a tree in five lists, one for each kind, in depth-first
order. Namespaces leave no trace in it; a class gives its methods to the functions and itself to the
classes. Flattening fails only on a class that lists something other than a function as a method.
-/

namespace ForeignBindings

/-- A function together with the class it is a method of. -/
structure BoundFunction where
  owner : Option ClassDecl
  decl : FunctionDecl
deriving Repr, DecidableEq

namespace BoundFunction

/-- The native symbol: a method carries the name of its class in front. -/
def symbol (f : BoundFunction) : String :=
  match f.owner with
  | some owner => owner.name ++ "_" ++ f.decl.name
  | none => f.decl.name

/-- Whether the native function takes the instance as its first argument. -/
def takesSelf (f : BoundFunction) : Bool := f.owner.isSome && !f.decl.isStatic

end BoundFunction

structure DeclarationSet where
  functions : List BoundFunction
  structs : List StructDecl
  enums : List EnumDecl
  typedefs : List TypedefDecl
  classes : List ClassDecl
deriving Repr, DecidableEq

/-- A class lists a declaration that is no function as a method. -/
structure MisplacedMethod where
  className : String
  kind : Kind
  name : String
deriving Repr, DecidableEq

def MisplacedMethod.message (e : MisplacedMethod) : String :=
  s!"structural invariant violated: class `{e.className}` lists {e.kind.word} `{e.name}` " ++
    "as a method"

namespace DeclarationSet

def empty : DeclarationSet := ⟨[], [], [], [], []⟩

/-- The declarations of two sets, kind by kind. -/
def append (a b : DeclarationSet) : DeclarationSet where
  functions := a.functions ++ b.functions
  structs := a.structs ++ b.structs
  enums := a.enums ++ b.enums
  typedefs := a.typedefs ++ b.typedefs
  classes := a.classes ++ b.classes

instance : Append DeclarationSet := ⟨append⟩

/-- The functions among the methods of a class, if all of them are functions. -/
def methodsOf (className : String) : List Declaration → Except MisplacedMethod (List FunctionDecl)
  | [] => .ok []
  | .function f :: rest => do return f :: (← methodsOf className rest)
  | other :: _ => .error ⟨className, other.kind, other.name⟩

mutual

/-- The declarations that one declaration contributes. -/
def ofDeclaration : Declaration → Except MisplacedMethod DeclarationSet
  | .function f => .ok { empty with functions := [⟨none, f⟩] }
  | .struct s => .ok { empty with structs := [s] }
  | .enum e => .ok { empty with enums := [e] }
  | .typedef t => .ok { empty with typedefs := [t] }
  | .scope _ members => ofTree members
  | .classType name methods fields documentation isAbstract => do
    let functions ← methodsOf name methods
    let owner : ClassDecl := ⟨name, functions, fields, documentation, isAbstract⟩
    return { empty with functions := functions.map (⟨some owner, ·⟩), classes := [owner] }

/-- The declarations of a tree, by kind, in depth-first order. -/
def ofTree : List Declaration → Except MisplacedMethod DeclarationSet
  | [] => .ok empty
  | decl :: rest => do
    let first ← ofDeclaration decl
    return first ++ (← ofTree rest)

end

/-- The names of the types that a set defines: structs, enums, typedefs, classes. -/
def typeNames (set : DeclarationSet) : List String :=
  set.structs.map (·.name) ++ set.enums.map (·.name) ++ set.typedefs.map (·.name) ++
    set.classes.map (·.name)

/-- The types that get marshaling helpers: structs, and classes without methods. -/
def plainDataTypes (set : DeclarationSet) : List String :=
  set.structs.map (·.name) ++ (set.classes.filter (·.methods.isEmpty)).map (·.name)

/-- The types that get an owning wrapper: structs, and classes that are not abstract. -/
def ownedTypes (set : DeclarationSet) : List String :=
  set.structs.map (·.name) ++ (set.classes.filter (!·.isAbstract)).map (·.name)

/-- Whether a set holds no declaration at all. -/
def isEmpty (set : DeclarationSet) : Bool :=
  set.functions.isEmpty && set.structs.isEmpty && set.enums.isEmpty && set.typedefs.isEmpty &&
    set.classes.isEmpty

end DeclarationSet

end ForeignBindings
