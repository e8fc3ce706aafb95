/-!
# Foreign declarations

The declaration tree of a C or C++ header. A tree is a list of declarations; namespaces and classes
hold further ones. Texts are kept as they were written: names may be any text, and types are spelled
in the foreign language.
-/

namespace ForeignBindings

/-- A function parameter; its name may be empty. -/
structure Parameter where
  name : String
  type : String
deriving Repr, DecidableEq

/-- A free function or a method of a class. -/
structure FunctionDecl where
  name : String
  returnType : String
  parameters : List Parameter
  documentation : Option String
  isVirtual : Bool
  isStatic : Bool
deriving Repr, DecidableEq

structure Field where
  name : String
  type : String
deriving Repr, DecidableEq

structure StructDecl where
  name : String
  fields : List Field
  documentation : Option String
deriving Repr, DecidableEq

/-- A named value of an enum, as its 64-bit pattern. -/
structure Enumerator where
  name : String
  value : UInt64
deriving Repr, DecidableEq

structure EnumDecl where
  name : String
  values : List Enumerator
  documentation : Option String
deriving Repr, DecidableEq

/-- A second name for a type. -/
structure TypedefDecl where
  name : String
  underlyingType : String
  documentation : Option String
deriving Repr, DecidableEq

/-- A class whose methods are functions. -/
structure ClassDecl where
  name : String
  methods : List FunctionDecl
  fields : List Field
  documentation : Option String
  isAbstract : Bool
deriving Repr, DecidableEq

/-- A declaration. A class of the tree may list any declaration as a method; only flattening tells
whether all of them are functions. -/
inductive Declaration
  | function (decl : FunctionDecl)
  | struct (decl : StructDecl)
  | enum (decl : EnumDecl)
  | typedef (decl : TypedefDecl)
  | scope (name : String) (members : List Declaration)
  | classType (name : String) (methods : List Declaration) (fields : List Field)
      (documentation : Option String) (isAbstract : Bool)
deriving Repr

inductive Kind
  | function | struct | enum | typedef | scope | classType
deriving Repr, DecidableEq

namespace Kind

/-- All kinds, in the order in which messages list them. -/
def all : List Kind := [function, struct, enum, typedef, scope, classType]

/-- The word for a kind inside a sentence. -/
def word : Kind → String
  | function => "function"
  | struct => "struct"
  | enum => "enum"
  | typedef => "typedef"
  | scope => "namespace"
  | classType => "class"

/-- The tag that marks a kind in a document. -/
def tag : Kind → String
  | function => "Function"
  | struct => "Struct"
  | enum => "Enum"
  | typedef => "Typedef"
  | scope => "Namespace"
  | classType => "Class"

end Kind

namespace Declaration

def kind : Declaration → Kind
  | function _ => .function
  | struct _ => .struct
  | enum _ => .enum
  | typedef _ => .typedef
  | scope .. => .scope
  | classType .. => .classType

/-- The name of a declaration, as written. -/
def name : Declaration → String
  | function decl => decl.name
  | struct decl => decl.name
  | enum decl => decl.name
  | typedef decl => decl.name
  | scope name _ => name
  | classType name .. => name

end Declaration

end ForeignBindings
