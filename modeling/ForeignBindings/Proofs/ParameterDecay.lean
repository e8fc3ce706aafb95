import ForeignBindings.Proofs.Shape

/-!
# Array parameters

An array parameter is passed as a pointer to its elements. For `T[n]` the pointer is put around the
mapped element, and it is as constant as the element says; for `T[]` a star is put behind the
spelling, and `const` stays with what the innermost pointer points at. The two agree exactly when the
element is no pointer to constant data (`decaysAlike`).
-/

namespace ForeignBindings
open CType Text

/-! ## Primitive types behind pointers -/

/-- The name of a primitive type behind so many pointers. -/
def behindPointers (name : String) (isConst : Bool) : Nat → String
  | 0 => name
  | extra + 1 => throughPointers (pointerTo isConst name) extra

/-- Only the first pointer says whether what it points at is constant. -/
theorem behindPointers_succ (name : String) (isConst : Bool) (depth : Nat) :
    behindPointers name isConst (depth + 1) =
      pointerTo (isConst && depth == 0) (behindPointers name isConst depth) := by
  cases depth with
  | zero => simp [behindPointers, throughPointers]
  | succ extra => simp [behindPointers, throughPointers]

theorem pointerTo_inj {first second : Bool} {pointee : String} :
    pointerTo first pointee = pointerTo second pointee ↔ first = second := by
  refine ⟨fun same => ?_, fun same => by rw [same]⟩
  have chars := congrArg (fun name : String => name.toList[1]?) same
  cases first <;> cases second <;> simp [pointerTo] at chars <;> rfl

namespace TypeMapping

variable {shape : CType.Shape} {name : String} (known : primitive? shape.base = some name)
include known

theorem eq_char_of_characterPointer? {isConst : Bool}
    (text : shape.characterPointer? = some isConst) :
    shape.indirection = 1 ∧ name = "::core::ffi::c_char" ∧ isConst = shape.isConst := by
  have table : primitive? "char" = some "::core::ffi::c_char" ∧ primitive? "const char" = none := by
    decide
  obtain ⟨single, ⟨base, same⟩ | ⟨base, -, -⟩⟩ := Shape.characterPointer?_eq_some_iff.mp text
  · rw [base, table.1] at known
    exact ⟨single, (Option.some.inj known).symm, same.symm⟩
  · rw [base, table.2] at known
    cases known

theorem isConst_ofShape_of_primitive (spelling : String) :
    (ofShape spelling shape).isConst = shape.isConst := by
  cases text : shape.characterPointer? with
  | some isConst =>
      rw [ofShape_of_characters text]
      exact (eq_char_of_characterPointer? known text).2.2
  | none =>
      rw [ofShape, text, known]
      cases shape.indirection <;> rfl

theorem isPointer_ofShape_of_primitive (spelling : String) :
    (ofShape spelling shape).isPointer = (shape.indirection != 0) := by
  cases text : shape.characterPointer? with
  | some isConst =>
      rw [ofShape_of_characters text, (eq_char_of_characterPointer? known text).1]
      rfl
  | none =>
      rw [ofShape, text, known]
      cases shape.indirection with
      | zero => rfl
      | succ extra =>
          dsimp only
          split <;> rfl

theorem abiName_ofShape_of_primitive (value : shape.base ≠ "void") (spelling : String) :
    (ofShape spelling shape).abiName = behindPointers name shape.isConst shape.indirection := by
  cases text : shape.characterPointer? with
  | some isConst =>
      obtain ⟨single, char, same⟩ := eq_char_of_characterPointer? known text
      rw [ofShape_of_characters text, single, char, same]
      rfl
  | none =>
      rw [ofShape, text, known]
      cases shape.indirection with
      | zero => rfl
      | succ extra =>
          dsimp only
          rw [if_neg value]
          rfl

/-- One more star puts one more pointer around a primitive type. -/
theorem abiName_ofShape_starred (value : shape.base ≠ "void") (first second : String) :
    (ofShape first shape.starred).abiName =
      pointerTo ((ofShape second shape).isConst && !(ofShape second shape).isPointer)
        (ofShape second shape).abiName := by
  have starred : primitive? shape.starred.base = some name := by rwa [Shape.base_starred]
  rw [abiName_ofShape_of_primitive starred value, Shape.indirection_starred,
    Shape.isConst_starred, behindPointers_succ, abiName_ofShape_of_primitive known value,
    isConst_ofShape_of_primitive known, isPointer_ofShape_of_primitive known, bne, Bool.not_not]

end TypeMapping

/-! ## Arrays of primitive elements -/

namespace TypeMapping

theorem paramAbi_withSpelling (m : TypeMapping) (spelling : String) :
    (m.withSpelling spelling).paramAbi = m.paramAbi := by
  cases m <;> rfl

end TypeMapping

section

variable {element : String} (plain : '[' ∉ element.toList)
include plain

theorem paramAbi_arrayType {extent : String} (closed : ']' ∉ extent.toList) :
    (mapType (arrayType element [extent])).paramAbi =
      (TypeMapping.ofExtents (trim element.toList) [readExtent extent.toList]).paramAbi := by
  have closedAll : ∀ e ∈ [extent], ']' ∉ e.toList := List.forall_mem_singleton.mpr closed
  rw [mapType_arrayType (List.cons_ne_nil extent []) plain closedAll,
    TypeMapping.paramAbi_withSpelling, List.map_singleton]

theorem paramAbi_sized {extent : String} (closed : ']' ∉ extent.toList)
    (sized : readExtent extent.toList ≠ none) :
    (mapType (arrayType element [extent])).paramAbi =
      pointerTo (mapType element).isConst (mapType element).abiName := by
  obtain ⟨length, read⟩ := Option.ne_none_iff_exists'.mp sized
  rw [paramAbi_arrayType plain closed, read, TypeMapping.ofExtents, TypeMapping.ofExtents,
    ← mapType_eq_ofElement plain, TypeMapping.paramAbi]

variable {name : String} (known : primitive? (typeShape element).base = some name)
include known

theorem paramAbi_unsized (value : (typeShape element).base ≠ "void") {extent : String}
    (closed : ']' ∉ extent.toList) (unsized : readExtent extent.toList = none) :
    (mapType (arrayType element [extent])).paramAbi =
      pointerTo ((mapType element).isConst && !(mapType element).isPointer)
        (mapType element).abiName := by
  have mapped := mapType_eq_ofShape plain (read?_of_primitive known)
  have single : (TypeMapping.ofShape (String.ofList (trim element.toList))
      (typeShape element).starred).isArray = false :=
    (TypeMapping.decays_ofShape (Shape.starred_address _)).notArray
  rw [paramAbi_arrayType plain closed, unsized, TypeMapping.ofExtents,
    TypeMapping.paramAbi_withSpelling, shapeOf_concat_star, ← typeShape,
    TypeMapping.paramAbi_eq_abiName single, mapped,
    ← TypeMapping.abiName_ofShape_starred known value]

end

/-! ## The statement -/

/-- What a parameter of type `T[n]` and one of type `T[]` are passed as. -/
structure DecaysAlike (element extent : String) : Prop where
  sized : readExtent extent.toList ≠ none → (mapType (arrayType element [extent])).paramAbi =
    pointerTo (mapType element).isConst (mapType element).abiName
  unsized : (mapType (arrayType element [""])).paramAbi =
    pointerTo ((mapType element).isConst && !(mapType element).isPointer) (mapType element).abiName
  alike : (mapType (arrayType element [extent])).paramAbi =
      (mapType (arrayType element [""])).paramAbi ↔
    readExtent extent.toList = none ∨ (mapType element).isConst = false ∨
      (mapType element).isPointer = false

theorem decaysAlike {element extent : String} (plain : '[' ∉ element.toList)
    (primitive : (primitive? (typeShape element).base).isSome)
    (value : (typeShape element).base ≠ "void") (closed : ']' ∉ extent.toList) :
    DecaysAlike element extent := by
  obtain ⟨name, known⟩ := Option.isSome_iff_exists.mp primitive
  have empty : readExtent "".toList = none := by decide
  have unsized := paramAbi_unsized plain known value (by decide) empty
  refine
    { sized := paramAbi_sized plain closed
      unsized := unsized
      alike := ?_ }
  -- An extent that cannot be read is the same as none.
  by_cases read : readExtent extent.toList = none
  · rw [paramAbi_unsized plain known value closed read, unsized]
    simp [read]
  · rw [paramAbi_sized plain closed read, unsized, pointerTo_inj]
    cases (mapType element).isConst <;> cases (mapType element).isPointer <;> simp [read]

/-- Pointers to characters that stay as they are, with `const` behind the star. -/
theorem decaysAlike_names :
    '[' ∉ "char * const".toList ∧
      (primitive? (typeShape "char * const").base).isSome ∧
      (typeShape "char * const").base ≠ "void" ∧ ']' ∉ "16".toList ∧
      DecaysAlike "char * const" "16" :=
  ⟨by decide, by decide, by decide, by decide,
    decaysAlike (by decide) (by decide) (by decide) (by decide)⟩

/-- The pointers of an array of known length become constant with what they point at. -/
theorem paramAbi_constPointers_ne :
    arrayType "const int*" ["4"] = "const int*[4]" ∧ arrayType "const int*" [""] = "const int*[]" ∧
      (mapType "const int*[4]").paramAbi = "*const *const i32" ∧
      (mapType "const int*[]").paramAbi = "*mut *const i32" := by
  decide

end ForeignBindings
