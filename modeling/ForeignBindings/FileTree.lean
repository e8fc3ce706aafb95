import ForeignBindings.FileSystem

/-!
# A tree of files

A file system as a value: directories hold files and further directories under names, and relative
paths start from a working directory. It has no links. The operations follow the rules of the
operating system on paths, so they fail for the same reasons.
-/

namespace ForeignBindings

/-- A file, or a directory with all that is in it. -/
inductive FileNode
  | file (content : ByteArray)
  | directory (entries : List (String × FileNode))

/-- The names on the way from the root. -/
abbrev Location := List String

namespace FileNode

/-- Puts a node under a name, in place of what stands there. -/
def setEntry (name : String) (node : FileNode) :
    List (String × FileNode) → List (String × FileNode)
  | [] => [(name, node)]
  | entry :: entries =>
    if entry.1 = name then (name, node) :: entries else entry :: setEntry name node entries

/-- What stands under a name in a directory. -/
def entry? : FileNode → String → Option FileNode
  | file _, _ => none
  | directory entries, name => entries.lookup name

/-- What stands at a location below a node. -/
def get? (node : FileNode) : Location → Option FileNode
  | [] => some node
  | name :: rest => (node.entry? name).bind (·.get? rest)

mutual

/-- All files in a node, by the names that lead to them. -/
def files : FileNode → List (Location × ByteArray)
  | file content => [([], content)]
  | directory entries => filesAmong entries

/-- All files in some entries, by the names that lead to them. -/
def filesAmong : List (String × FileNode) → List (Location × ByteArray)
  | [] => []
  | (name, node) :: entries =>
    node.files.map (fun (rest, content) => (name :: rest, content)) ++ filesAmong entries

end

end FileNode

/-! ## Places -/

/-- A place that a path leads to, whether something stands there or not. -/
structure Place where
  /-- The names taken on the way, each with the entries of the directory that it was taken in, the
  last one first. -/
  taken : List (String × List (String × FileNode))
  /-- What stands there. -/
  node : Option FileNode

namespace Place

def location (place : Place) : Location := (place.taken.map (·.1)).reverse

/-- The directory that a place is in. The root is in itself. -/
def up (place : Place) : Place :=
  match place.taken with
  | [] => place
  | (_, entries) :: taken => ⟨taken, some (.directory entries)⟩

/-- The root of the tree in which `node` stands at a place and all else is as on the way there. -/
def fill (place : Place) (node : FileNode) : FileNode :=
  place.taken.foldl (fun inner (name, entries) => .directory (FileNode.setEntry name inner entries))
    node

/-- The longest name that a file may have, in bytes. -/
def longestName : Nat := 255

/-- Goes from a directory to one of its names. -/
def step (place : Place) (name : String) : Except FileError Place :=
  match place.node with
  | none => .error .notFound
  | some (.file _) => .error .notDirectory
  | some (.directory entries) =>
    if name = "." then .ok place
    else if name = ".." then .ok place.up
    else if longestName < name.utf8ByteSize then .error .nameTooLong
    else .ok ⟨(name, entries) :: place.taken, entries.lookup name⟩

/-- Goes along names, one after the other. All but the last place must be directories. -/
def walk (place : Place) (names : List String) : Except FileError Place := names.foldlM step place

end Place

/-! ## Trees -/

structure FileTree where
  /-- The directory that holds everything. -/
  root : FileNode
  workingDir : Location

namespace FileTree

def get? (tree : FileTree) (location : Location) : Option FileNode := tree.root.get? location

/-- Puts a node at a place of a tree. -/
def put (tree : FileTree) (place : Place) (node : FileNode) : FileTree :=
  { tree with root := place.fill node }

/-- The longest path that the operating system takes, in bytes. -/
def longestPath : Nat := 4095

/-- A path, taken apart for the operating system. -/
structure Route where
  /-- The names from the root to where the path starts. -/
  start : Location
  names : List String
  /-- Whether the path ends with a slash, and so names a directory. -/
  namesDirectory : Bool

def route (tree : FileTree) (path : Path) : Except FileError Route :=
  if '\x00' ∈ path.toList then .error .invalidName
  else if path = "" then .error .notFound
  else if longestPath < path.utf8ByteSize then .error .nameTooLong
  else
    .ok
      { start := if path.isAbsolute then [] else tree.workingDir
        names := ((Path.pieces path.toList).filter (· != [])).map String.ofList
        namesDirectory := path.toList.getLast? == some '/' }

/-- Goes along names from where a path starts. -/
def walk (tree : FileTree) (start : Location) (names : List String) : Except FileError Place := do
  (← Place.walk ⟨[], some tree.root⟩ start).walk names

def find (tree : FileTree) (path : Path) : Except FileError FileNode := do
  let r ← tree.route path
  match (← tree.walk r.start r.names).node with
  | none => .error .notFound
  | some (.file content) => if r.namesDirectory then .error .notDirectory else return .file content
  | some (.directory entries) => return .directory entries

/-- The directory in which a path names its last component, with that component. Paths that end
with a dot or lead to the root name none. -/
def parentOf (tree : FileTree) (r : Route) : Except FileError (Place × Option String) := do
  let parent ← tree.walk r.start r.names.dropLast
  match parent.node with
  | none => .error .notFound
  | some (.file _) => .error .notDirectory
  | some (.directory _) => return (parent, r.names.getLast?.filter fun n => n ≠ "." ∧ n ≠ "..")

def readText (tree : FileTree) (path : Path) : Except FileError String := do
  match ← tree.find path with
  | .directory _ => .error .isDirectory
  | .file content =>
    match String.fromUTF8? content with
    | some text => return text
    | none => .error .notText

def isDirectory (tree : FileTree) (path : Path) : Bool :=
  match tree.find path with
  | .ok (.directory _) => true
  | _ => false

def makeDirectory (tree : FileTree) (path : Path) : Except FileError FileTree := do
  match ← tree.parentOf (← tree.route path) with
  | (_, none) => .error .alreadyExists
  | (parent, some name) =>
    let place ← parent.step name
    match place.node with
    | some _ => .error .alreadyExists
    | none => return tree.put place (.directory [])

/-- Opens a file to write it: a file that is there is emptied, and one that is not is made. Returns
the place of the file as well. -/
def openToWrite (tree : FileTree) (path : Path) : Except FileError (FileTree × Place) := do
  let r ← tree.route path
  match ← tree.parentOf r with
  | (_, none) => .error .isDirectory
  | (parent, some name) =>
    if r.namesDirectory then .error .isDirectory
    else
      let place ← parent.step name
      match place.node with
      | some (.directory _) => .error .isDirectory
      | _ => return (tree.put place (.file .empty), place)

/-- Opens a file and writes its content. A tree has room for every content, so that only opening the
file may fail. -/
def writeBytes (tree : FileTree) (path : Path) (content : ByteArray) :
    Except FileError FileTree := do
  let (opened, place) ← tree.openToWrite path
  return opened.put place (.file content)

/-- The files below a directory by their paths, in the order of the paths. -/
def filesBelow (tree : FileTree) (dir : Path) : List (Path × ByteArray) :=
  match tree.find dir with
  | .ok node =>
    (node.files.map fun (names, content) => (dir.join ("/".intercalate names), content)).mergeSort
      fun a b => a.1 ≤ b.1
  | .error _ => []

/-- A change that may fail, as a step of a computation on the tree. A failed change leaves the
tree as it is. -/
def attempt (change : FileTree → Except FileError FileTree) :
    StateM FileTree (Except FileError Unit) := fun tree =>
  match change tree with
  | .ok next => (.ok (), next)
  | .error e => (.error e, tree)

/-- The operations on a tree as file operations. -/
def fileSystem : FileSystem (StateM FileTree) where
  readText path := do return (← get).readText path
  isDirectory path := do return (← get).isDirectory path
  makeDirectory path := attempt (·.makeDirectory path)
  writeText path text := attempt (·.writeBytes path text.toUTF8)

end FileTree

end ForeignBindings
