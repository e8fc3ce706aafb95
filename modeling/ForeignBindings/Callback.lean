import Std.Data.TreeMap
import ForeignBindings.CType.FunctionPointer
import ForeignBindings.Identifier.Case

/-!
# Callback types

A callback is a named function-pointer type. A `CallbackTable` holds callbacks in the order in
which they came, one for each name: the first definition of a name wins, and a later one is a
collision when it disagrees on the signature. An index tells where a name is defined, and looking a
name up through it finds what a walk through the definitions would (`find?_eq`).
-/

namespace ForeignBindings
open CType

structure Callback where
  name : String
  signature : FunctionPointer
  documentation : Option String
deriving Repr, DecidableEq

/-- The name of the callback for a member of a declaration. The empty member stands for the
declaration itself. -/
def callbackName (owner member : String) : String :=
  Identifier.upperCamelCase owner ++ Identifier.upperCamelCase member ++ "Callback"

/-- What becomes of a callback that is offered to a table. -/
inductive Offer
  | added
  /-- The name is taken by a callback with the same signature. -/
  | repeated
  /-- The name is taken by a callback with another signature. -/
  | collides (kept : FunctionPointer)
deriving Repr, DecidableEq

/-- The index holds the name of every definition with its place, and nothing else. -/
def Indexes (index : Std.TreeMap String Nat) (definitions : List Callback) : Prop :=
  ∀ name place, index[name]? = some place ↔ definitions[place]?.map Callback.name = some name

/-- A definition with a new name is indexed by the place behind the others. -/
theorem Indexes.concat {index : Std.TreeMap String Nat} {definitions : List Callback}
    {callback : Callback} (indexed : Indexes index definitions)
    (fresh : index[callback.name]? = none) :
    Indexes (index.insert callback.name definitions.length) (definitions ++ [callback]) := by
  intro name place
  have behind (outside : definitions.length < place) : (definitions ++ [callback])[place]? = none :=
    List.getElem?_eq_none (by rw [List.length_append]; exact outside)
  rw [Std.TreeMap.getElem?_insert]
  split
  · rename_i same
    obtain rfl := Std.compare_eq_iff_eq.mp same
    rcases Nat.lt_trichotomy place definitions.length with inside | rfl | outside
    · rw [List.getElem?_append_left inside, ← indexed, fresh]
      exact iff_of_false (fun last => Nat.ne_of_gt inside (Option.some.inj last)) nofun
    · rw [List.getElem?_concat_length]
      exact iff_of_true rfl rfl
    · rw [behind outside]
      exact iff_of_false (fun last => Nat.ne_of_lt outside (Option.some.inj last)) nofun
  · rename_i other
    rw [indexed]
    rcases Nat.lt_trichotomy place definitions.length with inside | rfl | outside
    · rw [List.getElem?_append_left inside]
    · rw [List.getElem?_concat_length, List.getElem?_eq_none (Nat.le_refl _)]
      refine iff_of_false nofun fun same => ?_
      exact other (Std.compare_eq_iff_eq.mpr (Option.some.inj same))
    · rw [behind outside, List.getElem?_eq_none (Nat.le_of_lt outside)]

/-- Callbacks with distinct names, in the order in which they came, and the place of every name. -/
structure CallbackTable where
  definitions : List Callback
  index : Std.TreeMap String Nat
  indexed : Indexes index definitions

namespace CallbackTable

/-- The table without callbacks. -/
def empty : CallbackTable := ⟨[], {}, fun _ _ => by simp⟩

theorem index_eq_some_iff {table : CallbackTable} {name : String} {place : Nat} :
    table.index[name]? = some place ↔
      ∃ inside : place < table.definitions.length, table.definitions[place].name = name := by
  rw [table.indexed, Option.map_eq_some_iff]
  simp only [List.getElem?_eq_some_iff]
  constructor
  · rintro ⟨_, ⟨inside, rfl⟩, named⟩
    exact ⟨inside, named⟩
  · rintro ⟨inside, named⟩
    exact ⟨_, ⟨inside, rfl⟩, named⟩

theorem index_eq_none_iff {table : CallbackTable} {name : String} :
    table.index[name]? = none ↔ name ∉ table.definitions.map (·.name) := by
  rw [Option.eq_none_iff_forall_ne_some, List.mem_map, not_exists]
  constructor
  · rintro absent callback ⟨member, named⟩
    obtain ⟨place, inside, rfl⟩ := List.getElem_of_mem member
    exact absent place (index_eq_some_iff.mpr ⟨inside, named⟩)
  · intro absent place found
    obtain ⟨inside, named⟩ := index_eq_some_iff.mp found
    exact absent _ ⟨List.getElem_mem inside, named⟩

/-- The callback with a name. -/
def find? (table : CallbackTable) (name : String) : Option Callback :=
  match found : table.index[name]? with
  | none => none
  | some place => some (table.definitions.get ⟨place, (index_eq_some_iff.mp found).1⟩)

/-- Looking up a name finds what a walk through the definitions would find. -/
theorem find?_eq (table : CallbackTable) (name : String) :
    table.find? name = table.definitions.find? (·.name == name) := by
  unfold find?
  split
  · rename_i absent
    refine (List.find?_eq_none.mpr fun callback member named => ?_).symm
    exact index_eq_none_iff.mp absent (List.mem_map.mpr ⟨callback, member, eq_of_beq named⟩)
  · rename_i place found
    obtain ⟨inside, named⟩ := index_eq_some_iff.mp found
    rw [eq_comm, List.find?_eq_some_iff_getElem]
    refine ⟨beq_of_eq named, place, inside, rfl, fun earlier before => ?_⟩
    rw [Bool.not_eq_true', beq_eq_false_iff_ne]
    intro same
    have known := index_eq_some_iff.mpr ⟨Nat.lt_trans before inside, same⟩
    rw [found] at known
    exact Nat.ne_of_gt before (Option.some.inj known)

theorem find?_eq_none_iff {table : CallbackTable} {name : String} :
    table.find? name = none ↔ name ∉ table.definitions.map (·.name) := by
  simp only [find?_eq, List.find?_eq_none, List.mem_map, not_exists, not_and, beq_iff_eq]

/-- Adds a callback unless its name is taken. -/
def insert (table : CallbackTable) (callback : Callback) : CallbackTable :=
  match fresh : table.index[callback.name]? with
  | some _ => table
  | none =>
    { definitions := table.definitions ++ [callback]
      index := table.index.insert callback.name table.definitions.length
      indexed := table.indexed.concat fresh }

/-- What a table does with a callback that is offered to it. -/
def offer (table : CallbackTable) (callback : Callback) : Offer :=
  match table.find? callback.name with
  | none => .added
  | some kept =>
    if kept.signature = callback.signature then .repeated else .collides kept.signature

def insertAll (table : CallbackTable) (callbacks : List Callback) : CallbackTable :=
  callbacks.foldl insert table

/-- Callbacks that are offered in turn, with what the table does with each. -/
def offerAll (table : CallbackTable) : List Callback → List (Callback × Offer)
  | [] => []
  | callback :: rest => (callback, table.offer callback) :: (table.insert callback).offerAll rest

end CallbackTable

end ForeignBindings
