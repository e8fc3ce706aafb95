import ForeignBindings.Proofs.CallAgreement

/-!
# Which wrappers are unsafe

A wrapper is unsafe when one of its parameters hands over an address as it stands. The decision looks
at the spelling of each parameter alone (`isUnsafe_callThrough_iff`), while the aliases that are
emitted beside it may give a name to an address. `generate_marksWrappers` says for every function
what is decided, and that the decision follows the aliases exactly when some parameter is an address
by its own spelling or none is one by a name (`handsOverAddress_iff`).
-/

namespace ForeignBindings
open Identifier Layout Text

/-! ## Addresses behind names -/

/-- A pointer, a handle or an array, which is passed as a pointer to its elements. -/
def TypeMapping.IsAddress (m : TypeMapping) : Prop := m.isPointer = true ∨ m.isArray = true

/-- The type `type` is emitted as the name that the alias of `t` defines. -/
def TypedefDecl.IsNamedBy (t : TypedefDecl) (type : String) : Prop :=
  (mapType type).passthroughName = some (ident t.name "Unnamed")

/-- A type is an address by its own spelling, or names an alias whose type leads to one. -/
inductive LeadsToAddress (typedefs : List TypedefDecl) : String → Prop
  | spelled {type} : (mapType type).IsAddress → LeadsToAddress typedefs type
  | named {type t} : t ∈ typedefs → t.IsNamedBy type →
      LeadsToAddress typedefs t.underlyingType → LeadsToAddress typedefs type

namespace BoundFunction

/-- The types of the parameters, that of the instance first. -/
def paramTypes (f : BoundFunction) : List String :=
  (if f.takesSelf then [selfType] else []) ++ f.decl.parameters.map (·.type)

/-- Some parameter that is not copied from a string is an address by its own spelling. -/
def TakesAddress (f : BoundFunction) : Prop :=
  ∃ type ∈ f.paramTypes, ¬(mapType type).IsConstString ∧ (mapType type).IsAddress

/-- Some parameter names an alias that leads to an address. -/
def HidesAddress (typedefs : List TypedefDecl) (f : BoundFunction) : Prop :=
  ∃ type ∈ f.paramTypes, ∃ t ∈ typedefs, t.IsNamedBy type ∧ LeadsToAddress typedefs t.underlyingType

/-- Some parameter that is not copied from a string leads to an address. -/
def HandsOverAddress (typedefs : List TypedefDecl) (f : BoundFunction) : Prop :=
  ∃ type ∈ f.paramTypes, ¬(mapType type).IsConstString ∧ LeadsToAddress typedefs type

end BoundFunction

/-- How the wrapper `w` of `f` is marked, beside the aliases of `typedefs`. -/
structure UnsafetyDecided (typedefs : List TypedefDecl) (f : BoundFunction) (w : CallThrough) :
    Prop where
  symbol : w.symbol = ident f.symbol "unnamed"
  marked : w.signatureLine ∈ w.lines
  spelled : w.isUnsafe = true ↔ f.TakesAddress
  followsAliases : (w.isUnsafe = true ↔ f.HandsOverAddress typedefs) ↔
    f.TakesAddress ∨ ¬f.HidesAddress typedefs

/-! ## What is decided -/

theorem exposesAddress_iff {m : TypeMapping} :
    m.exposesAddress = true ↔ ¬m.IsConstString ∧ m.IsAddress := by
  unfold TypeMapping.exposesAddress TypeMapping.paramIsRaw TypeMapping.IsConstString
    TypeMapping.IsAddress
  cases m with
  | plain spelling isConst form =>
      cases form <;> cases isConst <;>
        simp [TypeMapping.marshalHint, Form.marshalHint, TypeMapping.isConst, TypeMapping.isArray,
          TypeMapping.isPointer, Form.isPointer]
  | array spelling length element =>
      simp [TypeMapping.marshalHint, TypeMapping.isArray]

namespace BoundFunction

theorem map_snd_nativeParams (map : String → TypeMapping) (f : BoundFunction) :
    (f.nativeParams map).map (·.2) = f.paramTypes.map map := by
  unfold nativeParams paramTypes declaredParams
  rw [List.map_append, List.map_append]
  congr 1
  · split <;> rfl
  · apply List.ext_getElem?
    intro i
    simp only [List.getElem?_map, List.getElem?_mapIdx, Option.map_map, Function.comp_def]

theorem isUnsafe_callThrough_iff (f : BoundFunction) :
    (f.callThrough mapType).isUnsafe = true ↔ f.TakesAddress := by
  have decided : (f.callThrough mapType).isUnsafe =
      (f.paramTypes.map mapType).any (·.exposesAddress) := by
    rw [← map_snd_nativeParams, List.any_map]
    rfl
  rw [decided, List.any_map, List.any_eq_true]
  simp only [Function.comp_apply, exposesAddress_iff, TakesAddress]

theorem not_isConstString_of_named {t : TypedefDecl} {type : String} (named : t.IsNamedBy type) :
    ¬(mapType type).IsConstString := by
  rintro ⟨-, string⟩
  obtain ⟨spelling, isConst, characters⟩ := TypeMapping.eq_characters string
  unfold TypedefDecl.IsNamedBy at named
  rw [characters] at named
  cases named

theorem handsOverAddress_iff (typedefs : List TypedefDecl) (f : BoundFunction) :
    f.HandsOverAddress typedefs ↔ f.TakesAddress ∨ f.HidesAddress typedefs := by
  constructor
  · rintro ⟨type, param, notString, leads⟩
    cases leads with
    | spelled address => exact .inl ⟨type, param, notString, address⟩
    | named member named leads => exact .inr ⟨type, param, _, member, named, leads⟩
  · rintro (⟨type, param, notString, address⟩ | ⟨type, param, t, member, named, leads⟩)
    · exact ⟨type, param, notString, .spelled address⟩
    · exact ⟨type, param, not_isConstString_of_named named, .named member named leads⟩

theorem signatureLine_mem_lines (f : BoundFunction) :
    (f.callThrough mapType).signatureLine ∈ (f.callThrough mapType).lines := by
  rw [lines_callThrough]
  simp

theorem unsafetyDecided_callThrough (typedefs : List TypedefDecl) (f : BoundFunction) :
    UnsafetyDecided typedefs f (f.callThrough mapType) where
  symbol := rfl
  marked := f.signatureLine_mem_lines
  spelled := f.isUnsafe_callThrough_iff
  followsAliases := by
    rw [isUnsafe_callThrough_iff, handsOverAddress_iff]
    tauto

end BoundFunction

/-! ## The statement -/

/-- Every function of a tree has one wrapper, marked by the spelling of its parameters. -/
def MarksWrappers (tree : List Declaration) (options : Options) (code : GeneratedCode) : Prop :=
  ∃ set wrappers, ∃ owners : List OwnerItem,
    DeclarationSet.ofTree tree = .ok set ∧
    code.content? .wrappers = some (unlines (SectionKind.wrappers.header options ++
      (WrappersSection.preamble ++ spaced (wrappers.map CallThrough.lines) ++
        spaced (owners.map OwnerItem.lines)))) ∧
    List.Forall₂ (UnsafetyDecided set.deduplicated.typedefs) set.deduplicated.functions wrappers

theorem generate_marksWrappers {tree : List Declaration} {options : Options}
    {generation : Generation} (h : generate tree options = .ok generation) :
    MarksWrappers tree options generation.code := by
  obtain ⟨set, flat, content⟩ := content_generate h
  refine ⟨set, WrappersSection.callThroughs mapType set.deduplicated,
    WrappersSection.owners options set.deduplicated, flat, content .wrappers, ?_⟩
  rw [WrappersSection.callThroughs, List.forall₂_map_right_iff, List.forall₂_same]
  exact fun f _ => f.unsafetyDecided_callThrough _

theorem generate_marksWrappers_pool :
    let handle : TypedefDecl := ⟨"Handle", "void*", none⟩
    let tree : List Declaration := .typedef handle ::
      [.classType "Pool" [.function ⟨"take", "int", [⟨"name", "const char*"⟩], none, false, false⟩]
          [] none false,
        .function ⟨"close", "void", [⟨"h", "Handle"⟩], none, false, false⟩]
    let options : Options := ⟨"Ui", "ui", .cdecl⟩
    ∃ generation, generate tree options = .ok generation ∧
      MarksWrappers tree options generation.code :=
  ⟨_, rfl, generate_marksWrappers rfl⟩

/-- The address that `close` takes goes by the name of an alias, and the wrapper is safe. -/
theorem callThrough_close_safe :
    let handle : TypedefDecl := ⟨"Handle", "void*", none⟩
    let tree : List Declaration := .typedef handle ::
      [.function ⟨"close", "void", [⟨"h", "Handle"⟩], none, false, false⟩]
    ∃ set f, DeclarationSet.ofTree tree = .ok set ∧ f ∈ set.deduplicated.functions ∧
      f.HandsOverAddress set.deduplicated.typedefs ∧
      (f.callThrough mapType).isUnsafe = false ∧
      (f.callThrough mapType).signatureLine = "pub fn close(h: Handle) \x7b" := by
  intro handle
  let close : BoundFunction := ⟨none, ⟨"close", "void", [⟨"h", "Handle"⟩], none, false, false⟩⟩
  let set : DeclarationSet := ⟨[close], [], [], [handle], []⟩
  refine ⟨set, close, rfl, by decide, ?_, by decide, by decide⟩
  have address : LeadsToAddress set.deduplicated.typedefs "void*" := .spelled (.inl (by decide))
  have kept : handle ∈ set.deduplicated.typedefs := by decide
  have named : handle.IsNamedBy "Handle" := by
    unfold TypedefDecl.IsNamedBy
    decide
  exact ⟨"Handle", by decide, by decide, .named kept named address⟩

end ForeignBindings
