import ForeignBindings.Proofs.Shape

/-!
# The spelling that a mapping keeps

A mapping keeps the spelling it was mapped from, without the blank characters around it, for
documentation to quote. Extents are taken off and written down again on the way, and each time the
spelling is put back. Only a type with nothing left to name loses it: such a type is mapped like
`void`, spelling included (`keepsSpelling`). What is kept is enough to map the type once more.
-/

namespace ForeignBindings
open CType Text

/-! ## Types with nothing left to name -/

/-- Nothing is left of the name, and there is no indirection. -/
structure CType.Shape.IsNameless (shape : Shape) : Prop where
  base : shape.base = ""
  value : shape.indirection = 0

/-- Nothing is left of a type when its qualifiers, tags and scopes are taken off. -/
structure IsNameless (type : String) : Prop where
  noFunction : FunctionPointer.read? (trim type.toList) = none
  noExtents : (splitExtents (trim type.toList)).2 = []
  nameless : (shapeOf (splitExtents (trim type.toList)).1).IsNameless

namespace TypeMapping

theorem ofShape_of_isNameless {shape : CType.Shape} (nameless : shape.IsNameless)
    (spelling : String) : ofShape spelling shape = plain "void" false (.scalar "()") := by
  have noText : shape.characterPointer? = none := by
    rw [Shape.characterPointer?, if_pos (by simp [nameless.value])]
  have unknown : primitive? shape.base = none := by
    rw [nameless.base]
    decide
  rw [ofShape, noText, unknown, nameless.value]
  exact if_pos nameless.base

theorem spelling_ofShape {shape : CType.Shape} (named : ¬shape.IsNameless) (spelling : String) :
    (ofShape spelling shape).spelling = spelling := by
  unfold ofShape
  split
  · rfl
  · split
    · rfl
    · rfl
    · rfl
    · rename_i value
      rw [if_neg fun base => named ⟨base, value⟩]
      rfl

theorem spelling_withSpelling (m : TypeMapping) (spelling : String) :
    (m.withSpelling spelling).spelling = spelling := by
  cases m <;> rfl

end TypeMapping

theorem mapType_of_isNameless {type : String} (nameless : IsNameless type) :
    mapType type = .plain "void" false (.scalar "()") := by
  obtain ⟨noFunction, noExtents, nameless⟩ := nameless
  unfold mapType TypeMapping.ofText
  dsimp only
  rw [if_neg (by simp [noFunction])]
  cases split : splitExtents (trim type.toList) with
  | mk base extents =>
      rw [split] at noExtents nameless
      subst noExtents
      exact TypeMapping.ofShape_of_isNameless nameless _

theorem spelling_mapType_of_named {type : String} (named : ¬IsNameless type) :
    (mapType type).spelling = String.ofList (trim type.toList) := by
  unfold mapType TypeMapping.ofText
  dsimp only
  split
  · rfl
  · rename_i noFunction
    cases split : splitExtents (trim type.toList) with
    | mk base extents =>
        cases extents with
        | nil =>
            refine TypeMapping.spelling_ofShape (fun nameless => named ⟨?_, ?_, ?_⟩) _
            · simpa using noFunction
            · rw [split]
            · rwa [split]
        | cons first rest => exact TypeMapping.spelling_withSpelling _ _

/-- An address keeps the spelling it was mapped from, without the blank characters around it. -/
theorem spelling_mapType {type : String} (address : (mapType type).isPointer = true) :
    (mapType type).spelling = String.ofList (trim type.toList) := by
  refine spelling_mapType_of_named fun nameless => ?_
  rw [mapType_of_isNameless nameless] at address
  cases address

/-! ## The statement -/

/-- What becomes of the spelling of a type. It is kept unless nothing is left to name, so in
particular wherever documentation quotes it; and what is kept is mapped to the same again. -/
structure KeepsSpelling (type : String) : Prop where
  kept : (mapType type).spelling = String.ofList (trim type.toList) ↔ ¬IsNameless type
  lost : IsNameless type → mapType type = mapType "void"
  quoted : (mapType type).isPointer = true ∨ (mapType type).isArray = true → ¬IsNameless type
  mappedAgain : mapType (mapType type).spelling = mapType type

theorem keepsSpelling (type : String) : KeepsSpelling type := by
  have void : mapType "void" = .plain "void" false (.scalar "()") := by decide
  refine
    { kept := ⟨fun same nameless => ?_, spelling_mapType_of_named⟩
      lost := fun nameless => by rw [mapType_of_isNameless nameless, void]
      quoted := ?_
      mappedAgain := ?_ }
  · rw [mapType_of_isNameless nameless] at same
    have chars : "void".toList = trim type.toList := String.ofList_injective same
    have base := nameless.nameless.base
    rw [← chars] at base
    revert base
    decide
  · rintro (address | array) nameless
    · rw [mapType_of_isNameless nameless] at address
      cases address
    · rw [mapType_of_isNameless nameless] at array
      cases array
  · by_cases nameless : IsNameless type
    · rw [mapType_of_isNameless nameless]
      exact void
    · rw [spelling_mapType_of_named nameless, mapType, String.toList_ofList, trim_trim, mapType]

/-- The name of a qualifier alone is lost. -/
theorem spelling_mapType_const :
    (mapType "const").spelling = "void" ∧ String.ofList (trim "const".toList) = "const" ∧
      (mapType "const[]").spelling = "const[]" ∧ (mapType "const*").spelling = "const*" := by
  decide

end ForeignBindings
