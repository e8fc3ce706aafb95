/-!
# Paths

Paths are texts with slashes between their components. They are joined as they stand and never
normalised; only the parent of a path looks at its components.
-/

namespace ForeignBindings

/-- A path, as written. -/
abbrev Path := String

namespace Path

def isAbsolute (path : Path) : Bool := path.toList.head? == some '/'

/-- A path below a directory. An absolute path stands for itself. -/
def join (base path : Path) : Path :=
  if path.isAbsolute then path
  else if base = "" ∨ base.toList.getLast? = some '/' then base ++ path
  else base ++ "/" ++ path

/-- A path that a file in the directory `base` names. -/
def resolve (path base : Path) : Path := if path.isAbsolute then path else base.join path

/-- The texts between the slashes. -/
def pieces (cs : List Char) : List (List Char) := cs.splitOnP (· == '/')

/-- Texts with slashes between them. -/
def ofPieces (ps : List (List Char)) : List Char := ['/'].intercalate ps

/-- Whether a piece of a path names nothing. -/
def isIdle (piece : List Char) : Bool := piece == [] || piece == ['.']

/-- The pieces up to the last one that names something. -/
def trimPieces (ps : List (List Char)) : List (List Char) := (ps.reverse.dropWhile isIdle).reverse

/-- Splits off the start of a path, which is no component to be dropped: the root, or a dot for the
working directory. -/
def splitStart : List Char → List Char × List Char
  | '/' :: cs => (['/'], cs)
  | ['.'] => (['.'], [])
  | '.' :: '/' :: cs => (['.'], '/' :: cs)
  | cs => ([], cs)

/-- The path without its last component. The root and the empty path have no parent. -/
def parent? (path : Path) : Option Path :=
  let (start, body) := splitStart path.toList
  match trimPieces (pieces body) with
  | [] => if start = ['.'] then some "" else none
  | ps => some (String.ofList (start ++ ofPieces (trimPieces ps.dropLast)))

end Path

end ForeignBindings
