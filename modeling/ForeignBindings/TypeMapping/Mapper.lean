import Std.Data.HashMap
import ForeignBindings.TypeMapping.OfType

/-!
# Remembered mappings

A `TypeMapper` remembers the mappings of the types it was asked for. It never answers anything but
`mapType` (`lookup_eq_mapType`), and what it knows is exactly what it was asked (`mem_note_iff`).
-/

namespace ForeignBindings

/-- The mappings of the types that were asked for so far. -/
structure TypeMapper where
  cache : Std.HashMap String TypeMapping
  sound : ∀ type m, cache[type]? = some m → m = mapType type

namespace TypeMapper

/-- The mapper that was asked for nothing. -/
def empty : TypeMapper where
  cache := {}
  sound := by simp

def lookup (mapper : TypeMapper) (type : String) : TypeMapping :=
  match mapper.cache[type]? with
  | some m => m
  | none => mapType type

/-- Remembers a type. -/
def note (mapper : TypeMapper) (type : String) : TypeMapper :=
  if type ∈ mapper.cache then mapper
  else
    { cache := mapper.cache.insert type (mapType type)
      sound := by
        intro other m h
        rw [Std.HashMap.getElem?_insert] at h
        split at h
        · rename_i heq
          obtain rfl := eq_of_beq heq
          exact (Option.some.inj h).symm
        · exact mapper.sound other m h }

def noteAll (mapper : TypeMapper) (types : List String) : TypeMapper := types.foldl note mapper

/-- The number of types that were asked for. -/
def size (mapper : TypeMapper) : Nat := mapper.cache.size

def map (mapper : TypeMapper) (type : String) : TypeMapping × TypeMapper :=
  (mapper.lookup type, mapper.note type)

@[simp] theorem lookup_eq_mapType (mapper : TypeMapper) : mapper.lookup = mapType := by
  funext type
  unfold lookup
  split
  · rename_i m h
    exact mapper.sound type m h
  · rfl

theorem mem_note_iff {mapper : TypeMapper} {type other : String} :
    other ∈ (mapper.note type).cache ↔ other = type ∨ other ∈ mapper.cache := by
  unfold note
  split
  · rename_i h
    exact ⟨.inr, fun h' => h'.elim (· ▸ h) id⟩
  · simp only [Std.HashMap.mem_insert, beq_iff_eq]
    exact or_congr_left eq_comm

end TypeMapper

end ForeignBindings
