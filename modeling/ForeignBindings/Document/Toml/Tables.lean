import ForeignBindings.Document.Value

/-!
# Tables under construction

A configuration document names its tables by headers and dotted keys, in any order, but every
table may be opened by a header once only, and a value may be given once only. While a document is
read, each table remembers how it came about.
-/

namespace ForeignBindings.Document.Toml

/-- How a table came about. -/
inductive Origin
  /-- A header names it. -/
  | header
  /-- A header names a table inside it, and nothing else does. -/
  | implied
  /-- A dotted key leads through it, and no header names it. -/
  | dotted
deriving Repr, DecidableEq

/-- A value or a table that may still grow. -/
inductive Node
  | value (v : Value)
  | table (origin : Origin) (entries : List (String × Node))
  /-- The tables under one repeated header; the last one may still grow. -/
  | tables (items : List (List (String × Node)))

/-- The entries of a table under construction. -/
abbrev Entries := List (String × Node)

def updateLast (change : Entries → Option Entries) : List Entries → Option (List Entries)
  | [] => none
  | [last] => do return [← change last]
  | first :: rest => do return first :: (← updateLast change rest)

/-- The origin of a table after a path has led through it. A dotted key claims the tables that it
leads through, and must not lead through one that a header names. -/
def Origin.claim? (made : Origin) (origin : Origin) : Option Origin :=
  if made ≠ .dotted then some origin else if origin = .header then none else some .dotted

/-- Changes the table at the end of a path. Tables that are missing on the way are made, with the
origin `made`. -/
def descend (made : Origin) (change : Origin → Entries → Option Entries) :
    List String → Origin → Entries → Option Entries
  | [], origin, entries => change origin entries
  | key :: path, _, entries =>
    match entries.lookup key with
    | none => do
      let inner ← descend made change path made []
      return insertEntry key (.table made inner) entries
    | some (.table origin inner) => do
      let origin ← made.claim? origin
      return insertEntry key (.table origin (← descend made change path origin inner)) entries
    | some (.tables items) => do
      return insertEntry key
        (.tables (← updateLast (descend made change path .header) items)) entries
    | some (.value _) => none

def addEntry (key : String) (node : Node) (entries : Entries) : Option Entries :=
  if (entries.lookup key).isSome then none else some (insertEntry key node entries)

/-- Gives a value to a dotted key. The table that a dotted key leads to must itself come from dotted
keys. -/
def assign (path : List String) (key : String) (v : Value) (entries : Entries) : Option Entries :=
  descend .dotted
    (fun origin table =>
      if path ≠ [] ∧ origin ≠ .dotted then none else addEntry key (.value v) table)
    path .header entries

def openTable (key : String) (_ : Origin) (entries : Entries) : Option Entries :=
  match entries.lookup key with
  | none => some (insertEntry key (.table .header []) entries)
  | some (.table .implied inner) => some (insertEntry key (.table .header inner) entries)
  | some _ => none

/-- Adds a table under a repeated header. -/
def openRepeated (key : String) (_ : Origin) (entries : Entries) : Option Entries :=
  match entries.lookup key with
  | none => some (insertEntry key (.tables [[]]) entries)
  | some (.tables items) => some (insertEntry key (.tables (items ++ [[]])) entries)
  | some _ => none

mutual

def Node.toValue : Node → Value
  | .value v => v
  | .table _ entries => .table (toEntries entries)
  | .tables items => .list (toTables items)

def toEntries : List (String × Node) → List (String × Value)
  | [] => []
  | (key, node) :: entries => (key, node.toValue) :: toEntries entries

def toTables : List (List (String × Node)) → List Value
  | [] => []
  | entries :: rest => .table (toEntries entries) :: toTables rest

end

end ForeignBindings.Document.Toml
