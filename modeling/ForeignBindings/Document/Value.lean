import ForeignBindings.Text.Quoted

/-!
# Values of a document

The values that a document in a data format holds. Whole numbers come in the widths that the
formats tell apart; a decimal number is kept as the text that messages show for it. The entries of
a table are sorted by key, so that two documents which differ in the order of keys only have the
same values.
-/

namespace ForeignBindings.Document

inductive Value
  | null
  | bool (b : Bool)
  /-- A whole number that the format reads as unsigned. -/
  | natural (n : UInt64)
  /-- A whole number that the format reads as signed. -/
  | integer (i : Int64)
  /-- A whole number that does not fit in 64 bits. -/
  | wide (i : Int)
  | decimal (shown : String)
  | string (s : String)
  | dateTime
  | list (items : List Value)
  | table (entries : List (String × Value))
deriving Repr, Inhabited

/-- Puts an entry into a sorted list of entries, in place of one with the same key. -/
def insertEntry {α : Type} (key : String) (value : α) : List (String × α) → List (String × α)
  | [] => [(key, value)]
  | entry :: entries =>
    if key < entry.1 then (key, value) :: entry :: entries
    else if key = entry.1 then (key, value) :: entries
    else entry :: insertEntry key value entries

namespace Value

/-- The table with some entries; of several entries for one key the last counts. -/
def ofEntries (entries : List (String × Value)) : Value :=
  .table (entries.foldl (fun sorted (key, value) => insertEntry key value sorted) [])

def describe : Value → String
  | null => "null"
  | bool b => s!"boolean `{b}`"
  | natural n => s!"integer `{n}`"
  | integer i => s!"integer `{i}`"
  | wide i =>
    if i < Int.pow 2 127 then s!"integer `{i}` as i128" else s!"integer `{i}` as u128"
  | decimal shown => s!"floating point `{shown}`"
  | string s => "string " ++ Text.quoted s
  | dateTime => "map"
  | list _ => "sequence"
  | table _ => "map"

mutual

/-- The first value inside a value that is neither a list nor a table and satisfies `p`. -/
def findLeaf? (p : Value → Bool) : Value → Option Value
  | list items => findLeafIn? p items
  | table entries => findLeafAmong? p entries
  | v => if p v then some v else none

def findLeafIn? (p : Value → Bool) : List Value → Option Value
  | [] => none
  | v :: vs =>
    match findLeaf? p v with
    | some found => some found
    | none => findLeafIn? p vs

def findLeafAmong? (p : Value → Bool) : List (String × Value) → Option Value
  | [] => none
  | (_, v) :: entries =>
    match findLeaf? p v with
    | some found => some found
    | none => findLeafAmong? p entries

end

def isWide : Value → Bool
  | wide _ => true
  | _ => false

/-- The first number inside a value that does not fit in 64 bits. -/
def firstWide? (v : Value) : Option Value := v.findLeaf? isWide

end Value

end ForeignBindings.Document
