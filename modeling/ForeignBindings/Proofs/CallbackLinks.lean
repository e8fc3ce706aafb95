import ForeignBindings.Proofs.CallbackSection
import ForeignBindings.Proofs.CamelCase

/-!
# Links from aliases to callback types

The alias of a function-pointer typedef links to its callback by the name of the callback, while the
callbacks section defines the callback under the identifier of that name. The two are the same
unless the name starts with a digit (`ident_callbackName_eq_iff`), that is, unless a digit is the
first of the letters and digits of the typedef's name (`startsWithDigit_callbackName`). For every
typedef, `generate_linksCallbacks` says whether its link is resolved.
-/

namespace ForeignBindings
open CType Identifier Layout Text

/-! ## Names that start with a digit -/

namespace Identifier

/-- A digit is the first of the letters and digits of a name. -/
def LeadsWithDigit (name : String) : Prop := (name.toList.find? (·.isAlphanum)).any Char.isDigit

instance (name : String) : Decidable (LeadsWithDigit name) := inferInstanceAs (Decidable (_ = true))

theorem isDigit_toUpper {c : Char} (alphanumeric : c.isAlphanum = true) :
    c.toUpper.isDigit = c.isDigit :=
  forall_isWordChar (P := fun c => c.toUpper.isDigit = c.isDigit) (by decide)
    (isWordChar_of_isAlphanum alphanumeric)

end Identifier

theorem startsWithDigit_callbackName (owner : String) :
    startsWithDigit (callbackName owner "").toList = true ↔ LeadsWithDigit owner := by
  have empty : (upperCamelCase "").toList = [] := by decide
  rw [startsWithDigit, LeadsWithDigit, callbackName, String.toList_append, String.toList_append,
    empty, List.append_nil, List.head?_append, head?_upperCamelCase]
  cases found : owner.toList.find? (·.isAlphanum) with
  | none => decide
  | some c =>
      have alphanumeric : c.isAlphanum = true := List.find?_some found
      simp [isDigit_toUpper alphanumeric]

/-- The callback of a typedef is defined under its own name unless that starts with a digit. -/
theorem ident_callbackName_eq_iff (owner fallback : String) :
    ident (callbackName owner "") fallback = callbackName owner "" ↔ ¬LeadsWithDigit owner := by
  rw [ident_callbackName, ← startsWithDigit_callbackName, guardDigit]
  split
  · rename_i starts
    refine iff_of_false (fun same => ?_) (not_not_intro starts)
    have longer := congrArg (fun s : String => s.toList.length) same
    simp at longer
  · rename_i plain
    exact iff_of_true String.ofList_toList plain

/-! ## Definitions of callback types -/

/-- What the source of callbacks defines. -/
def CallbacksSection.defined (convention : CallingConvention) (callbacks : List Callback) :
    List Definition :=
  definitions (unlines (lines mapType convention callbacks))

namespace RendersFirstCallbacks

variable {set : DeclarationSet} {options : Options} {code : GeneratedCode}
  {callbacks : List Callback} (rendered : RendersFirstCallbacks set options code callbacks)
include rendered

theorem mem_defined_iff {name : String} :
    .typeAlias name ∈ CallbacksSection.defined options.convention callbacks ↔
      ∃ c ∈ callbacks, ident c.name "Callback" = name := by
  rw [CallbacksSection.defined, rendered.definitions, List.mem_flatMap]
  simp [eq_comm]

theorem defined_of_typedef {t : TypedefDecl} (member : t ∈ set.typedefs)
    (pointer : (FunctionPointer.parse? t.underlyingType).isSome) :
    .typeAlias (ident (callbackName t.name "") "Callback") ∈
      CallbacksSection.defined options.convention callbacks := by
  obtain ⟨signature, parsed⟩ := Option.isSome_iff_exists.mp pointer
  obtain ⟨c, kept, name⟩ := rendered.first.complete _ _ signature (.typedef member rfl) parsed
  exact rendered.mem_defined_iff.mpr ⟨c, kept, by rw [name]⟩

theorem startsWithDigit_of_defined {name : String}
    (defined : .typeAlias name ∈ CallbacksSection.defined options.convention callbacks) :
    startsWithDigit name.toList = false := by
  obtain ⟨c, kept, rfl⟩ := rendered.mem_defined_iff.mp defined
  obtain ⟨owner, part, name⟩ := rendered.first.exists_callbackName kept
  rw [name, ident_callbackName, String.toList_ofList]
  exact startsWithDigit_guardDigit _

/-- The name of a typedef's callback is defined as it stands unless it starts with a digit. -/
theorem resolves_iff {t : TypedefDecl} (member : t ∈ set.typedefs)
    (pointer : (FunctionPointer.parse? t.underlyingType).isSome) :
    .typeAlias (callbackName t.name "") ∈
        CallbacksSection.defined options.convention callbacks ↔
      ¬LeadsWithDigit t.name := by
  constructor
  · intro defined digit
    have starts := (startsWithDigit_callbackName t.name).mpr digit
    rw [rendered.startsWithDigit_of_defined defined] at starts
    cases starts
  · intro letter
    have defined := rendered.defined_of_typedef member pointer
    rwa [(ident_callbackName_eq_iff t.name "Callback").mpr letter] at defined

end RendersFirstCallbacks

/-! ## Links of aliases -/

/-- The line of a link. -/
def CallbackLink.line (link : CallbackLink) : String :=
  s!"/// Native function pointer `{link.native}`; " ++
    s!"see [`super::callbacks::{link.callback}`]."

theorem AliasItem.line_mem_lines {item : AliasItem} {link : CallbackLink}
    (linked : item.link = some link) : link.line ∈ item.lines := by
  rw [lines, linked]
  exact List.mem_append_left _ (List.mem_append_right _ (List.mem_singleton_self _))

theorem TypedefDecl.link_eq_some_iff {t : TypedefDecl} {link : CallbackLink} :
    (t.item mapType).link = some link ↔
      (FunctionPointer.parse? t.underlyingType).isSome ∧
        link = ⟨(mapType t.underlyingType).spelling, callbackName t.name ""⟩ := by
  by_cases pointer : (FunctionPointer.parse? t.underlyingType).isSome
  · have linked : (t.item mapType).link =
        some ⟨(mapType t.underlyingType).spelling, callbackName t.name ""⟩ := if_pos pointer
    rw [linked, Option.some_inj, eq_comm, and_iff_right pointer]
  · have unlinked : (t.item mapType).link = none := if_neg pointer
    exact iff_of_false (by simp [unlinked]) fun both => pointer both.1

/-! ## The statement -/

/-- The link of an alias to its callback type: it stands on function pointers, its target is defined
under its identifier, and under the name that is linked unless that starts with a digit. -/
structure TypedefDecl.LinksCallback (t : TypedefDecl) (defined : List Definition) : Prop where
  present : (t.item mapType).link.isSome ↔ (FunctionPointer.parse? t.underlyingType).isSome
  line : ∀ link ∈ (t.item mapType).link, link.line ∈ (t.item mapType).lines
  escaped : ∀ link ∈ (t.item mapType).link, .typeAlias (ident link.callback "Callback") ∈ defined
  resolves : ∀ link ∈ (t.item mapType).link,
    (.typeAlias link.callback ∈ defined ↔ ¬LeadsWithDigit t.name)

theorem RendersFirstCallbacks.linksCallback {set : DeclarationSet} {options : Options}
    {code : GeneratedCode} {callbacks : List Callback}
    (rendered : RendersFirstCallbacks set options code callbacks) {t : TypedefDecl}
    (member : t ∈ set.typedefs) :
    t.LinksCallback (CallbacksSection.defined options.convention callbacks) where
  present := by
    rw [Option.isSome_iff_exists]
    simp only [TypedefDecl.link_eq_some_iff, exists_and_left, exists_eq, and_true]
  line _ linked := AliasItem.line_mem_lines linked
  escaped link linked := by
    obtain ⟨pointer, rfl⟩ := TypedefDecl.link_eq_some_iff.mp linked
    exact rendered.defined_of_typedef member pointer
  resolves link linked := by
    obtain ⟨pointer, rfl⟩ := TypedefDecl.link_eq_some_iff.mp linked
    exact rendered.resolves_iff member pointer

/-- The links of the typedefs of a set, from the types section to the callbacks section. -/
structure LinksCallbacks (set : DeclarationSet) (options : Options) (code : GeneratedCode)
    (callbacks : List Callback) : Prop where
  typesContent : code.content? .types = some (unlines (SectionKind.types.header options ++
    TypesSection.lines mapType set))
  callbacksContent : code.content? .callbacks = some (unlines
    (SectionKind.callbacks.header options ++
      CallbacksSection.lines mapType options.convention callbacks))
  items : ∀ t ∈ set.typedefs, .typeAlias (t.item mapType) ∈ TypesSection.items mapType set
  links : ∀ t ∈ set.typedefs,
    t.LinksCallback (CallbacksSection.defined options.convention callbacks)

theorem generate_linksCallbacks {tree : List Declaration} {options : Options}
    {generation : Generation} (h : generate tree options = .ok generation) :
    ∃ set callbacks, DeclarationSet.ofTree tree = .ok set ∧
      LinksCallbacks set.deduplicated options generation.code callbacks := by
  obtain ⟨set, flat, code⟩ := generate_ok h
  have rendered := rendersFirstCallbacks set.deduplicated options
  rw [← code] at rendered
  refine ⟨set, (CallbackTable.ofSet set.deduplicated).1.definitions, flat, ?_⟩
  exact
    { typesContent := code ▸ content_generateFrom set.deduplicated options .types
      callbacksContent := rendered.content
      items := fun _ => TypesSection.typeAlias_mem_items mapType
      links := fun t member => rendered.linksCallback member }

/-- A typedef whose name starts with a letter. -/
theorem generate_linksCallbacks_onKey :
    let onKey : TypedefDecl := ⟨"on_key", "void (*)(int)", none⟩
    let tree : List Declaration := [.typedef onKey]
    let options : Options := ⟨"Ui", "ui", .cdecl⟩
    ∃ generation, generate tree options = .ok generation ∧
      ∃ set callbacks, DeclarationSet.ofTree tree = .ok set ∧
        LinksCallbacks set.deduplicated options generation.code callbacks :=
  ⟨_, rfl, generate_linksCallbacks rfl⟩

/-- A digit after an underscore: the name of the callback starts with it. -/
theorem link_3d_not_defined :
    let t : TypedefDecl := ⟨"_3d", "void (*)(int)", none⟩
    ∃ set, DeclarationSet.ofTree [.typedef t] = .ok set ∧ t ∈ set.deduplicated.typedefs ∧
      (t.item mapType).link = some ⟨"void (*)(int)", "3dCallback"⟩ ∧
      .typeAlias "3dCallback" ∉
        CallbacksSection.defined .cdecl (CallbackTable.ofSet set.deduplicated).1.definitions := by
  intro t
  refine ⟨_, rfl, by decide, by decide, fun defined => ?_⟩
  have starts := (rendersFirstCallbacks _ ⟨"NS", "lib", .cdecl⟩).startsWithDigit_of_defined defined
  exact absurd starts (by decide)

end ForeignBindings
