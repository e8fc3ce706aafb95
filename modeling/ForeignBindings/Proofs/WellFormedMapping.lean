import ForeignBindings.Proofs.UnresolvedTypes
import ForeignBindings.Proofs.ValidIdentifier

/-!
# Views of a mapping that agree

Emitters read a mapping through a dozen views: whether it is an address or an array, how it crosses
the boundary, its names. `WellFormed` says how the views depend on each other, and
`wellFormed_mapType` that they do so for every text, also in the elements of arrays.
-/

namespace ForeignBindings
open CType Identifier Text

/-! ## Names of types without values -/

theorem Form.isPointer_of_unit {form : Form} {isConst : Bool}
    (unit : form.targetName isConst = "()") : form.isPointer = false := by
  cases form with
  | scalar => rfl
  | named => rfl
  | handle => exact absurd unit (by decide : nativeHandle ≠ "()")
  | characters => exact absurd unit (by decide : "String" ≠ "()")
  | pointer pointee extra => exact absurd unit (throughPointers_ne (by decide) isConst pointee extra)

namespace TypeMapping

theorem notAddress_of_isVoid {m : TypeMapping} (void : m.isVoid = true) :
    m.isPointer = false ∧ m.isArray = false := by
  cases m with
  | plain => exact ⟨Form.isPointer_of_unit (beq_iff_eq.mp void), rfl⟩
  | array spelling length element =>
      rw [isVoid_array] at void
      cases void

/-! ## Levels -/

/-- A mapping, the mapping of its elements, and so on to the innermost one. -/
def levels : TypeMapping → List TypeMapping
  | plain spelling isConst form => [plain spelling isConst form]
  | array spelling length element => array spelling length element :: element.levels

/-- What an array is made of in the end; any other mapping is made of itself. -/
def innermost : TypeMapping → TypeMapping
  | plain spelling isConst form => plain spelling isConst form
  | array _ _ element => element.innermost

/-- The mapping is used by name: it is no primitive, no address and has values. -/
structure IsName (m : TypeMapping) : Prop where
  notPrimitive : m.isPrimitive = false
  noHint : m.marshalHint = none
  notVoid : m.isVoid = false

/-- How the views of a mapping depend on each other. -/
structure WellFormed (m : TypeMapping) : Prop where
  element : m.element.isSome = m.isArray
  length : m.arrayLength.isSome = m.isArray
  fixedArray : m.marshalHint = some .fixedArray ↔ m.isArray = true
  address : m.isPointer = true ↔
    m.marshalHint = some .rawPointer ∨ m.marshalHint = some .ownedString
  string : m.marshalHint = some .ownedString →
    m.targetName = "String" ∧ m.abiName =
      if m.isConst then "*const ::core::ffi::c_char" else "*mut ::core::ffi::c_char"
  sameName : m.marshalHint ≠ some .ownedString → m.targetName = m.abiName
  array : ∀ element length, m.element = some element → m.arrayLength = some length →
    m.abiName = s!"[{element.abiName}; {length}]" ∧ m.isConst = element.isConst
  void : m.isVoid = true → m.isPointer = false ∧ m.isArray = false
  passed : ∀ name, m.passthroughName = some name ↔
    m.innermost.IsName ∧ m.innermost.abiName = name
  identifier : ∀ name, m.passthroughName = some name → IsIdentifier name

/-! ## The views of every mapping -/

theorem passthroughName_eq_some_iff {m : TypeMapping} {name : String} :
    m.passthroughName = some name ↔ m.innermost.IsName ∧ m.innermost.abiName = name := by
  induction m with
  | plain spelling isConst form =>
      rw [passthroughName_plain, innermost]
      -- Only a named type has neither a hint nor a primitive in it.
      constructor
      · rintro ⟨rfl, notUnit⟩
        exact ⟨⟨rfl, rfl, beq_eq_false_iff_ne.mpr notUnit⟩, rfl⟩
      · rintro ⟨⟨notPrimitive, noHint, notVoid⟩, same⟩
        cases form with
        | named other =>
            obtain rfl : other = name := same
            exact ⟨rfl, beq_eq_false_iff_ne.mp notVoid⟩
        | scalar => cases notPrimitive
        | pointer => cases notPrimitive
        | handle => cases noHint
        | characters => cases noHint
  | array spelling length element ih => rwa [passthroughName, innermost]

theorem wellFormed_plain {spelling : String} {isConst : Bool} {form : Form}
    (identifier : ∀ name, (plain spelling isConst form).passthroughName = some name →
      IsIdentifier name) : (plain spelling isConst form).WellFormed where
  element := rfl
  length := rfl
  fixedArray := by cases form <;> exact iff_of_false nofun nofun
  address := by cases form <;> simp [isPointer, Form.isPointer, marshalHint, Form.marshalHint]
  string hint := by
    cases form with
    | characters => cases isConst <;> exact ⟨rfl, rfl⟩
    | scalar | handle | pointer | named => cases hint
  sameName hint := by
    cases form with
    | characters => exact absurd rfl hint
    | scalar | handle | pointer | named => rfl
  array := nofun
  void := notAddress_of_isVoid
  passed _ := passthroughName_eq_some_iff
  identifier := identifier

theorem wellFormed_array {spelling : String} {length : UInt64} {element : TypeMapping}
    (identifier : ∀ name, element.passthroughName = some name → IsIdentifier name) :
    (array spelling length element).WellFormed where
  element := rfl
  length := rfl
  fixedArray := iff_of_true rfl rfl
  address := iff_of_false nofun nofun
  string := nofun
  sameName _ := rfl
  array := by
    rintro element length ⟨⟩ ⟨⟩
    exact ⟨rfl, rfl⟩
  void := notAddress_of_isVoid
  passed _ := passthroughName_eq_some_iff
  identifier name passed := identifier name (by rwa [passthroughName] at passed)

/-- All levels of a mapping pass the same name through. -/
theorem wellFormed_levels {m : TypeMapping}
    (identifier : ∀ name, m.passthroughName = some name → IsIdentifier name) :
    ∀ level ∈ m.levels, level.WellFormed := by
  induction m with
  | plain => exact List.forall_mem_singleton.mpr (wellFormed_plain identifier)
  | array spelling length element ih =>
      have inner : ∀ name, element.passthroughName = some name → IsIdentifier name := identifier
      exact List.forall_mem_cons.mpr ⟨wellFormed_array inner, ih inner⟩

end TypeMapping

/-! ## The statement -/

theorem wellFormed_mapType (type : String) : ∀ level ∈ (mapType type).levels, level.WellFormed := by
  refine TypeMapping.wellFormed_levels fun name passed => ?_
  obtain ⟨base, nonblank, rfl⟩ := TypeMapping.exists_base_mapType passed
  exact isIdentifier_ident nonblank "()"

/-- The elements of an array of structs. -/
theorem wellFormed_mapType_rows :
    let row : TypeMapping := .plain "const struct Row" true (.named "Row")
    row ∈ (mapType "const struct Row[2][3]").levels ∧ row.WellFormed :=
  ⟨by decide, wellFormed_mapType "const struct Row[2][3]" _ (by decide)⟩

end ForeignBindings
