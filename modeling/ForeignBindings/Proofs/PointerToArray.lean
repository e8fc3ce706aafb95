import ForeignBindings.Proofs.Shape
import ForeignBindings.Section.Types

/-!
# Pointers to arrays

A pointer to an array is spelled `T (*)[n]`: the brackets stand behind a parenthesis that encloses
the star. Mapping takes the extents off without a look at what stands before them, so that such a
type becomes an inline array of addresses as soon as one of its extents is known, and a single
address only when none is (`pointsAtArray`).
-/

namespace ForeignBindings
open CType Text

/-! ## How a pointer to an array is spelled -/

/-- A text of blank characters. -/
abbrev Gap := { text : String // text.toList.all isBlank = true }

theorem blank_gap (gap : Gap) : ∀ c ∈ gap.val.toList, isBlank c = true :=
  List.all_eq_true.mp gap.property

/-- A text that can stand between two brackets. -/
abbrev ExtentText := { text : String // ']' ∉ text.toList }

/-- A pointer to an array, with the blanks that stand around its star, before its brackets and at
its end. -/
structure ArrayPointer where
  element : String
  element_plain : isUnbracketed element.toList = true
  beforeStar : Gap
  afterStar : Gap
  extents : List (Gap × ExtentText)
  extents_ne_nil : extents ≠ []
  trailing : Gap

namespace ArrayPointer

def spelling (p : ArrayPointer) : String :=
  p.element ++ "(" ++ p.beforeStar ++ "*" ++ p.afterStar ++ ")" ++
    String.join (p.extents.map fun (gap, extent) => gap ++ "[" ++ extent ++ "]") ++ p.trailing

/-- The extents that can be read as numbers. -/
def lengths (p : ArrayPointer) : List UInt64 :=
  p.extents.filterMap fun (_, extent) => readExtent extent.val.toList

end ArrayPointer

/-- The name of the array of arrays with these lengths, the outermost first. -/
def inlineArrays (lengths : List UInt64) (element : String) : String :=
  lengths.foldr (fun length inner => s!"[{inner}; {length}]") element

/-! ## Reading a pointer to an array -/

namespace ArrayPointer

variable (p : ArrayPointer)

/-- What stands before the brackets, with its parenthesis at the end. -/
def declarator : List Char :=
  trimStart p.element.toList ++
    '(' :: (p.beforeStar.val.toList ++ '*' :: p.afterStar.val.toList) ++ [')']

/-- The gaps and the texts between brackets behind them. -/
def groups : List (List Char × List Char) :=
  p.extents.map fun (gap, extent) => (gap.val.toList, extent.val.toList)

theorem groups_ne_nil : p.groups ≠ [] := List.map_eq_nil_iff.not.mpr p.extents_ne_nil

theorem getLast?_declarator : p.declarator.getLast? = some ')' := List.getLast?_concat

theorem toList_spelling : p.spelling.toList = p.element.toList ++
    '(' :: (p.beforeStar.val.toList ++ '*' :: p.afterStar.val.toList) ++ [')'] ++
      p.groups.flatMap spacedBrackets ++ p.trailing.val.toList := by
  simp [spelling, groups, String.toList_join, List.flatMap_map, spacedBrackets, bracketed]

theorem trim_declarator : trim (p.element.toList ++
    '(' :: (p.beforeStar.val.toList ++ '*' :: p.afterStar.val.toList) ++ [')']) = p.declarator := by
  have visible := visible_of_getLast? (List.getLast?_concat (l := p.element.toList ++
    '(' :: (p.beforeStar.val.toList ++ '*' :: p.afterStar.val.toList)) (a := ')')) (by decide)
  rw [trim_eq_trimStart visible, List.append_assoc, List.cons_append,
    trimStart_append_cons p.element.toList (by decide)]
  simp [declarator]

theorem mapType_spelling : mapType p.spelling =
    (TypeMapping.ofExtents p.declarator (p.groups.map fun group => readExtent group.2)).withSpelling
      (String.ofList (trim p.spelling.toList)) := by
  have blank (gap : Gap) : '[' ∉ gap.val.toList := not_mem_of_blank (blank_gap gap) (by decide)
  have plain : '[' ∉ p.element.toList := not_mem_of_isUnbracketed p.element_plain (by decide)
  have blankGroups : ∀ group ∈ p.groups, ∀ c ∈ group.1, isBlank c = true :=
    List.forall_mem_map.mpr fun (gap, _) _ => blank_gap gap
  have closed : ∀ group ∈ p.groups, ']' ∉ group.2 :=
    List.forall_mem_map.mpr fun (_, extent) _ => extent.property
  rw [mapType_spacedBrackets p.toList_spelling (by simp [plain, blank]) p.groups_ne_nil blankGroups
    closed (blank_gap p.trailing), p.trim_declarator]

theorem lengths_eq : p.lengths = (p.groups.map fun group => readExtent group.2).filterMap id := by
  simp [lengths, groups, List.filterMap_map]

end ArrayPointer

/-! ## What it is mapped to -/

/-- A handle within arrays of these lengths, the outermost first. -/
inductive TypeMapping.HandlesInArrays : List UInt64 → TypeMapping → Prop
  | handle {spelling isConst} : HandlesInArrays [] (.plain spelling isConst .handle)
  | array {spelling length lengths element} : HandlesInArrays lengths element →
      HandlesInArrays (length :: lengths) (.array spelling length element)

namespace TypeMapping

namespace HandlesInArrays

variable {lengths : List UInt64} {m : TypeMapping} (handles : HandlesInArrays lengths m)
include handles

theorem withSpelling (spelling : String) : HandlesInArrays lengths (m.withSpelling spelling) := by
  cases handles with
  | handle => exact .handle
  | array element => exact .array element

theorem abiName : m.abiName = inlineArrays lengths nativeHandle := by
  induction handles with
  | handle => rfl
  | array _ ih =>
      rw [TypeMapping.abiName, ih]
      rfl

theorem arrayLength : m.arrayLength = lengths.head? := by
  cases handles <;> rfl

theorem isPointer_iff : m.isPointer = true ↔ lengths = [] := by
  cases handles with
  | handle => exact iff_of_true rfl rfl
  | array => exact iff_of_false nofun nofun

theorem isArray_iff : m.isArray = true ↔ lengths ≠ [] := by
  cases handles with
  | handle => exact iff_of_false nofun (· rfl)
  | array => exact iff_of_true rfl nofun

end HandlesInArrays

theorem handlesInArrays_ofShape {shape : CType.Shape}
    (closed : shape.base.toList.getLast? = some ')') (address : shape.indirection ≠ 0)
    (spelling : String) : HandlesInArrays [] (ofShape spelling shape) := by
  rw [ofShape_of_parenthesis closed address]
  exact .handle

section

variable {base : List Char} (closed : base.getLast? = some ')') (star : '*' ∈ base)
include closed star

theorem handlesInArrays_ofElement : HandlesInArrays [] (ofElement base) := by
  have address : indirection base ≠ 0 := by
    rw [Ne, indirection_eq_zero_iff]
    intro plain
    have decoration := plain '*' star
    revert decoration
    decide
  unfold ofElement
  dsimp only
  split
  · exact .handle
  · exact handlesInArrays_ofShape (getLast?_base_shapeOf closed) address _

/-- Behind a parenthesis, an address is all that is left when the extents are taken off. -/
theorem handlesInArrays_ofExtents (extents : List Extent) :
    HandlesInArrays (extents.filterMap id) (ofExtents base extents) := by
  -- Every extent is taken off the same base, so the parenthesis stands at its end in all cases.
  induction extents with
  | nil =>
      rw [ofExtents]
      exact handlesInArrays_ofElement closed star
  | cons extent extents ih =>
      cases extent with
      | some length =>
          rw [ofExtents]
          exact .array ih
      | none =>
          rw [List.filterMap_cons_none rfl]
          cases extents with
          | nil =>
              have starred : (shapeOf base).starred.base.toList.getLast? = some ')' :=
                getLast?_base_shapeOf closed
              rw [ofExtents, shapeOf_concat_star]
              exact (handlesInArrays_ofShape starred (Shape.starred_address _) _).withSpelling _
          | cons next extents =>
              rw [ofExtents_cons_none (List.cons_ne_nil next extents)]
              exact ih.withSpelling _

end

end TypeMapping

theorem ArrayPointer.handlesInArrays (p : ArrayPointer) :
    (mapType p.spelling).HandlesInArrays p.lengths := by
  have star : '*' ∈ p.declarator := by simp [declarator]
  rw [p.mapType_spelling, lengths_eq]
  exact (TypeMapping.handlesInArrays_ofExtents p.getLast?_declarator star _).withSpelling _

/-! ## The statement -/

/-- What a pointer to an array becomes: an address exactly when no extent can be read as a number,
and otherwise an array whose first length is the first such number, also as the field of a
record. -/
structure PointsAtArray (p : ArrayPointer) : Prop where
  isPointer : (mapType p.spelling).isPointer = true ↔ p.lengths = []
  isArray : (mapType p.spelling).isArray = true ↔ p.lengths ≠ []
  arrayLength : (mapType p.spelling).arrayLength = p.lengths.head?
  abiName : (mapType p.spelling).abiName = inlineArrays p.lengths nativeHandle
  fields : ∀ (fields : List Field) (i : Nat), fields[i]?.map (·.type) = some p.spelling →
    (recordFields mapType fields)[i]?.map (·.type) = some (inlineArrays p.lengths nativeHandle)

theorem pointsAtArray (p : ArrayPointer) : PointsAtArray p := by
  have handles := p.handlesInArrays
  refine
    { isPointer := handles.isPointer_iff
      isArray := handles.isArray_iff
      arrayLength := handles.arrayLength
      abiName := handles.abiName
      fields := fun fields i found => ?_ }
  obtain ⟨field, place, type⟩ := Option.map_eq_some_iff.mp found
  rw [recordFields, List.getElem?_mapIdx, place, ← handles.abiName, ← type, Option.map_some,
    Option.map_some]

/-- A pointer to a row of four numbers. -/
def rowPointer : ArrayPointer where
  element := "int "
  element_plain := by decide
  beforeStar := ⟨"", by decide⟩
  afterStar := ⟨"", by decide⟩
  extents := [(⟨"", by decide⟩, ⟨"4", by decide⟩)]
  extents_ne_nil := by decide
  trailing := ⟨"", by decide⟩

/-- A struct holds a whole array in the place of its address. -/
theorem mapType_rowPointer_isArray :
    rowPointer.spelling = "int (*)[4]" ∧ (mapType "int (*)[4]").isArray = true ∧
      (mapType "int (*)[4]").isPointer = false ∧
      (recordFields mapType [⟨"row", "int (*)[4]"⟩]).map (·.type) = ["[NativeHandle; 4]"] := by
  decide

end ForeignBindings
