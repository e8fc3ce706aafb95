import ForeignBindings.Proofs.ArrayExtents
import ForeignBindings.Proofs.Deduplication
import ForeignBindings.Proofs.ReleaseSignature

/-!
# Aliases of themselves

Deduplication leaves out the typedefs that repeat the tag of their type, as it is written: a tag,
one space and the name. Mapping takes off much more of a type, so that qualifiers, scopes and other
blank characters hide a name from the filter and not from the alias. A kept typedef is an alias of
itself exactly when its type comes down to a name or a primitive type that has the identifier of the
typedef (`TypedefDecl.abiName_eq_ident_iff`).
-/

namespace ForeignBindings
open CType Identifier Layout Text

/-! ## Values that are written with one name -/

/-- The base name of a type whose values are no addresses and no arrays. -/
def valueBase? (type : String) : Option String :=
  let cs := trim type.toList
  if (FunctionPointer.read? cs).isSome then none
  else
    match splitExtents cs with
    | (base, []) => if (shapeOf base).indirection = 0 then some (shapeOf base).base else none
    | _ => none

namespace TypeMapping

theorem abiName_ofShape {shape : CType.Shape} (value : shape.indirection = 0) (spelling : String) :
    (ofShape spelling shape).abiName = (primitive? shape.base).getD (ident shape.base "()") := by
  have noText : shape.characterPointer? = none := if_pos (by rw [value]; decide)
  rw [ofShape, noText, value]
  cases primitive? shape.base with
  | some name => rfl
  | none =>
      by_cases blank : shape.base = ""
      · rw [blank]
        rfl
      · simp only [if_neg blank]
        rfl

theorem abiName_mapType_of_valueBase {type base : String} (found : valueBase? type = some base) :
    (mapType type).abiName = (primitive? base).getD (ident base "()") := by
  unfold valueBase? at found
  unfold mapType ofText
  dsimp only at found ⊢
  split at found
  · cases found
  · rename_i noFunction
    rw [if_neg noFunction]
    split at found
    · rename_i whole
      split at found
      · rename_i value
        obtain rfl := Option.some.inj found
        rw [whole]
        exact abiName_ofShape value _
      · cases found
    · cases found

/-- A type without such a name is an address or an array. -/
theorem decays_or_isArray_mapType {type : String} (absent : valueBase? type = none) :
    (mapType type).Decays ∨ (mapType type).isArray = true := by
  unfold valueBase? at absent
  unfold mapType ofText
  dsimp only at absent ⊢
  split at absent
  · rename_i function
    rw [if_pos function]
    exact .inl (decays_plain rfl)
  · rename_i noFunction
    rw [if_neg noFunction]
    cases whole : splitExtents (trim type.toList) with
    | mk base extents =>
        rw [whole] at absent
        cases extents with
        | nil =>
            have address : (shapeOf base).indirection ≠ 0 := by simpa using absent
            exact .inl (decays_ofShape address)
        | cons extent extents =>
            have sized : extent :: extents ≠ [] := List.cons_ne_nil extent extents
            dsimp only
            rw [decays_withSpelling_iff, isArray_withSpelling, decays_ofExtents_iff sized,
              isArray_ofExtents_iff sized]
            by_cases unknown : ∀ e ∈ extent :: extents, e = none
            · exact .inl unknown
            · push Not at unknown
              exact .inr unknown

theorem IsHandle.abiName_eq {m : TypeMapping} (handle : m.IsHandle) : m.abiName = nativeHandle := by
  cases handle <;> rfl

end TypeMapping

namespace Identifier

theorem ne_ident_of_mem {s : String} {c : Char} (member : c ∈ s.toList)
    (foreign : (isWordChar c || c == '#') = false) (raw : String) {fallback : String}
    (word : IsWord fallback) : s ≠ ident raw fallback := by
  rintro rfl
  exact (mem_ident word.isIdentChar member).ne foreign rfl

theorem EscapesTo.ne_nil {s t : List Char} (escapes : EscapesTo s t) : s ≠ [] := by
  cases escapes with
  | digit starts =>
      rintro rfl
      cases starts
  | @reserved word known =>
      have visible : ∀ word ∈ reservedWords, word.toList ≠ [] := by decide
      exact visible word known

theorem not_sharesIdent_of_blank {a b : String} (blank : spelling a = [])
    (nonblank : spelling b ≠ []) : ¬SharesIdent a b := by
  rintro (same | escapes | escapes)
  · exact nonblank (same ▸ blank)
  · exact escapes.ne_nil blank
  · have underscore := escapes.underscore_mem
    rw [blank] at underscore
    cases underscore

end Identifier

/-! ## Typedefs that name themselves -/

namespace TypedefDecl

/-- How a typedef becomes an alias of itself: its type is a declared name with the identifier of the
typedef, or a primitive type whose counterpart is called like that, or an address under the name of
native handles. -/
inductive NamesItself (t : TypedefDecl) : Prop
  | declared {base : String} : valueBase? t.underlyingType = some base → primitive? base = none →
      SharesIdent base (label t.name "Unnamed") → NamesItself t
  | primitive {base : String} : valueBase? t.underlyingType = some base →
      primitive? base = some (ident t.name "Unnamed") → NamesItself t
  | handle : (mapType t.underlyingType).IsHandle → ident t.name "Unnamed" = nativeHandle →
      NamesItself t

variable (t : TypedefDecl)

theorem ne_ident_name {s : String} {c : Char} (member : c ∈ s.toList)
    (foreign : (isWordChar c || c == '#') = false) : s ≠ ident t.name "Unnamed" :=
  ne_ident_of_mem member foreign t.name (isWord_ofList rfl)

theorem ident_base_eq_iff (base : String) :
    ident base "()" = ident t.name "Unnamed" ↔ SharesIdent base (label t.name "Unnamed") := by
  have labelled : spelling (label t.name "Unnamed") ≠ [] := spelling_label (by decide)
  by_cases blank : spelling base = []
  · have parenthesis : '(' ∈ "()".toList := by decide
    rw [ident_of_blank blank]
    exact iff_of_false (t.ne_ident_name parenthesis (by decide))
      (not_sharesIdent_of_blank blank labelled)
  · have fixed : ident "Unnamed" "" = "Unnamed" := by decide
    rw [← ident_label fixed]
    exact ident_eq_ident_iff blank labelled "()" ""

theorem isHandle_of_abiName_eq (decays : (mapType t.underlyingType).Decays)
    (same : (mapType t.underlyingType).abiName = ident t.name "Unnamed") :
    (mapType t.underlyingType).IsHandle := by
  rcases decays.address with handle | ⟨isConst, pointee, pointer⟩
  · rw [← TypeMapping.paramAbi_eq_abiName decays.notArray] at handle
    exact TypeMapping.paramAbi_mapType_iff.mp handle
  · rw [pointer] at same
    exact absurd same (t.ne_ident_name (star_mem_pointerTo isConst pointee) (by decide))

theorem abiName_eq_ident_iff :
    (mapType t.underlyingType).abiName = ident t.name "Unnamed" ↔ t.NamesItself := by
  constructor
  · intro same
    cases found : valueBase? t.underlyingType with
    | some base =>
        rw [TypeMapping.abiName_mapType_of_valueBase found] at same
        cases known : primitive? base with
        | some name =>
            rw [known, Option.getD_some] at same
            exact .primitive found (same ▸ known)
        | none =>
            rw [known, Option.getD_none] at same
            exact .declared found known ((t.ident_base_eq_iff base).mp same)
    | none =>
        rcases TypeMapping.decays_or_isArray_mapType found with decays | array
        · have handle := t.isHandle_of_abiName_eq decays same
          exact .handle handle (same ▸ handle.abiName_eq)
        · have bracket := TypeMapping.bracket_mem_abiName array
          exact absurd same (t.ne_ident_name bracket (by decide))
  · intro itself
    cases itself with
    | declared found known shared =>
        rw [TypeMapping.abiName_mapType_of_valueBase found, known]
        exact (t.ident_base_eq_iff _).mpr shared
    | primitive found known =>
        rw [TypeMapping.abiName_mapType_of_valueBase found, known, Option.getD_some]
    | handle handle name => rw [name, handle.abiName_eq]

end TypedefDecl

/-! ## The statement -/

/-- The aliases of a set: each kept typedef is emitted, is none that the filter leaves out, and is
an alias of itself exactly when it names itself. -/
structure DefinesAliases (set : DeclarationSet) (options : Options) (code : GeneratedCode) :
    Prop where
  content : code.content? .types = some (unlines (SectionKind.types.header options ++
    TypesSection.lines mapType set))
  items : ∀ t ∈ set.typedefs, .typeAlias (t.item mapType) ∈ TypesSection.items mapType set
  lines : ∀ t ∈ set.typedefs,
    TypeItem.definition (.typeAlias (t.item mapType)) ∈ (t.item mapType).lines
  filtered : ∀ t ∈ set.typedefs, t.isTagPassthrough = false
  itself : ∀ t ∈ set.typedefs,
    (mapType t.underlyingType).abiName = ident t.name "Unnamed" ↔ t.NamesItself

theorem generate_definesAliases {tree : List Declaration} {options : Options}
    {generation : Generation} (h : generate tree options = .ok generation) :
    ∃ set, DeclarationSet.ofTree tree = .ok set ∧
      DefinesAliases set.deduplicated options generation.code := by
  obtain ⟨set, flat, content⟩ := content_generate h
  refine ⟨set, flat, ?_⟩
  exact
    { content := content .types
      items := fun _ => TypesSection.typeAlias_mem_items mapType
      lines := fun t _ => (TypeItem.typeAlias (t.item mapType)).definition_mem_lines
      filtered := fun t member => by
        rw [← set.ownTypedefs_deduplicated] at member
        simpa using (List.mem_filter.mp member).2
      itself := fun t _ => t.abiName_eq_ident_iff }

/-- A qualifier before a tag, a primitive type, and a typedef with a name of its own. -/
theorem generate_definesAliases_foo :
    let foo : TypedefDecl := ⟨"Foo", "const struct Foo", none⟩
    let u8 : TypedefDecl := ⟨"u8", "unsigned char", none⟩
    let size : TypedefDecl := ⟨"Size", "int", none⟩
    let tree : List Declaration := [.typedef foo, .typedef u8, .typedef size]
    let options : Options := ⟨"Demo", "demo", .cdecl⟩
    ∃ generation, generate tree options = .ok generation ∧
      ∃ set, DeclarationSet.ofTree tree = .ok set ∧
        DefinesAliases set.deduplicated options generation.code :=
  ⟨_, rfl, generate_definesAliases rfl⟩

/-- A tab behind the tag hides the name from the filter. -/
theorem abiName_foo_eq_name :
    let t : TypedefDecl := ⟨"Foo", "struct\tFoo", none⟩
    ∃ set, DeclarationSet.ofTree [.typedef t] = .ok set ∧ t ∈ set.deduplicated.typedefs ∧
      (mapType t.underlyingType).abiName = ident t.name "Unnamed" :=
  ⟨_, rfl, by decide, by decide⟩

end ForeignBindings
