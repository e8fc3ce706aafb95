import ForeignBindings.Proofs.Shape
import ForeignBindings.Section.Wrappers

/-!
# Which types are strings

A pointer to characters is marshaled as a string that ends with a zero byte. References count as one
level of indirection like stars, so a reference to a single character is taken for such a pointer
too, and the wrapper of a function that returns one reads past it. `marshalsCharacters` says exactly
which types are.
-/

namespace ForeignBindings
open CType Text

/-! ## Pointers and references to characters -/

/-- The type points at characters: it has one star and no ampersand. -/
structure IsCharacterPointer (type : String) : Prop where
  base : (typeShape type).base = "char"
  star : type.toList.count '*' = 1
  noReference : '&' ∉ type.toList

/-- The type refers to one character. -/
structure IsCharacterReference (type : String) : Prop where
  base : (typeShape type).base = "char"
  noStar : type.toList.count '*' = 0
  reference : '&' ∈ type.toList

/-- The word `const` stands behind a scope, where it is part of a name and stays in the base name
when the scope is taken off. -/
structure HidesConst (type : String) : Prop where
  base : (typeShape type).base = "const char"
  single : (typeShape type).indirection = 1
  isMutable : (typeShape type).isConst = false

theorem indirection_typeShape (type : String) :
    (typeShape type).indirection =
      type.toList.count '*' + if '&' ∈ type.toList then 1 else 0 := by
  have star : isBlank '*' = false := by decide
  have ampersand : isBlank '&' = false := by decide
  calc (typeShape type).indirection
      = (trim type.toList).count '*' + if '&' ∈ trim type.toList then 1 else 0 := rfl
    _ = type.toList.count '*' + if '&' ∈ type.toList then 1 else 0 := by
        rw [count_trim _ star]
        simp only [mem_trim_iff ampersand]

theorem indirection_eq_one_iff {type : String} : (typeShape type).indirection = 1 ↔
    type.toList.count '*' = 1 ∧ '&' ∉ type.toList ∨
      type.toList.count '*' = 0 ∧ '&' ∈ type.toList := by
  rw [indirection_typeShape]
  by_cases reference : '&' ∈ type.toList <;> simp [reference]

theorem IsCharacterPointer.not_reference {type : String} (pointer : IsCharacterPointer type) :
    ¬IsCharacterReference type :=
  fun reference => pointer.noReference reference.reference

theorem IsCharacterPointer.not_hidesConst {type : String} (pointer : IsCharacterPointer type) :
    ¬HidesConst type := by
  intro hides
  have same : "char" = "const char" := pointer.base.symm.trans hides.base
  revert same
  decide

/-! ## What is taken for a string -/

theorem characterPointer?_isSome_iff {type : String} :
    (typeShape type).characterPointer?.isSome ↔
      IsCharacterPointer type ∨ IsCharacterReference type ∨ HidesConst type := by
  rw [Option.isSome_iff_exists]
  constructor
  · rintro ⟨isConst, text⟩
    obtain ⟨single, ⟨base, -⟩ | ⟨base, isMutable, -⟩⟩ :=
      Shape.characterPointer?_eq_some_iff.mp text
    · rcases indirection_eq_one_iff.mp single with ⟨star, noReference⟩ | ⟨noStar, reference⟩
      · exact .inl ⟨base, star, noReference⟩
      · exact .inr (.inl ⟨base, noStar, reference⟩)
    · exact .inr (.inr ⟨base, single, isMutable⟩)
  · rintro (pointer | reference | hides)
    · have single := indirection_eq_one_iff.mpr (.inl ⟨pointer.star, pointer.noReference⟩)
      exact ⟨_, Shape.characterPointer?_eq_some_iff.mpr ⟨single, .inl ⟨pointer.base, rfl⟩⟩⟩
    · have single := indirection_eq_one_iff.mpr (.inr ⟨reference.noStar, reference.reference⟩)
      exact ⟨_, Shape.characterPointer?_eq_some_iff.mpr ⟨single, .inl ⟨reference.base, rfl⟩⟩⟩
    · exact ⟨true, Shape.characterPointer?_eq_some_iff.mpr
        ⟨hides.single, .inr ⟨hides.base, hides.isMutable, rfl⟩⟩⟩

theorem TypeMapping.marshalHint_ofShape_iff {shape : CType.Shape} (spelling : String) :
    (ofShape spelling shape).marshalHint = some .ownedString ↔ shape.characterPointer?.isSome := by
  cases text : shape.characterPointer? with
  | some isConst =>
      rw [ofShape_of_characters text]
      exact iff_of_true rfl rfl
  | none =>
      refine iff_of_false ?_ nofun
      rw [ofShape, text]
      dsimp only
      repeat' split
      all_goals
        intro hint
        cases hint

theorem marshalHint_mapType_iff {type : String}
    (plain : isUnbracketed type.toList = true) :
    (mapType type).marshalHint = some .ownedString ↔
      IsCharacterPointer type ∨ IsCharacterReference type ∨ HidesConst type := by
  have unopened : '[' ∉ type.toList := not_mem_of_isUnbracketed plain (by decide)
  have unclosed : ')' ∉ type.toList := not_mem_of_isUnbracketed plain (by decide)
  rw [mapType_eq_ofShape unopened (read?_of_plain unclosed), TypeMapping.marshalHint_ofShape_iff,
    characterPointer?_isSome_iff]

/-! ## The statement -/

/-- Which types are strings, and whose wrappers read a string to its zero byte. The law that only
pointers to characters are strings fails for references and for hidden constness, and nowhere
else. -/
structure MarshalsCharacters (type : String) : Prop where
  hint : (mapType type).marshalHint = some .ownedString ↔
    IsCharacterPointer type ∨ IsCharacterReference type ∨ HidesConst type
  lawful : ((mapType type).marshalHint = some .ownedString ↔ IsCharacterPointer type) ↔
    ¬IsCharacterReference type ∧ ¬HidesConst type
  returned : ∀ f : BoundFunction, f.decl.returnType = type →
    ((f.callThrough mapType).returnsString = true ↔
      IsCharacterPointer type ∨ IsCharacterReference type ∨ HidesConst type)

theorem marshalsCharacters {type : String}
    (plain : isUnbracketed type.toList = true) : MarshalsCharacters type := by
  have hint := marshalHint_mapType_iff plain
  refine
    { hint := hint
      lawful := ?_
      returned := ?_ }
  · rw [hint]
    constructor
    · intro lawful
      exact ⟨fun reference => (lawful.mp (.inr (.inl reference))).not_reference reference,
        fun hides => (lawful.mp (.inr (.inr hides))).not_hidesConst hides⟩
    · rintro ⟨noReference, nothingHidden⟩
      exact ⟨fun string => string.resolve_right (not_or.mpr ⟨noReference, nothingHidden⟩), .inl⟩
  · rintro f rfl
    rw [BoundFunction.callThrough, beq_iff_eq, hint]

theorem marshalsCharacters_tagged :
    isUnbracketed "const volatile char\t*".toList = true ∧
      MarshalsCharacters "const volatile char\t*" :=
  ⟨by decide, marshalsCharacters (by decide)⟩

/-- The wrapper of a function that returns a reference to one character is safe and reads on to a
zero byte. -/
theorem callThrough_first_reads :
    let first : BoundFunction := ⟨none, ⟨"first", "char&", [], none, false, false⟩⟩
    (mapType "char&").marshalHint = some .ownedString ∧
      (first.callThrough mapType).lines =
        ["/// Calls [`bindings::first`].",
          "pub fn first() -> String \x7b",
          "    unsafe \x7b from_native_string(bindings::first()) \x7d",
          "\x7d"] := by
  decide

end ForeignBindings
