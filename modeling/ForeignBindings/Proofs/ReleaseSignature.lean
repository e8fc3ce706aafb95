import ForeignBindings.Proofs.AddressExposure
import ForeignBindings.Proofs.OwnerRelease
import ForeignBindings.Proofs.TypeNames

/-!
# Signatures of releasing functions

An owning type that finds its destructor among the declarations calls the binding of it with one
native handle. The destructor is found by its symbol alone, so the call fits exactly when the
declared function takes a single handle (`ChecksReleases.all`).
-/

namespace ForeignBindings
open CType Identifier Layout Text

namespace TypeMapping

/-- A mapping whose values are native handles by their own name; an alias of a handle has another
one. -/
inductive IsHandle : TypeMapping → Prop
  | address {spelling isConst} : IsHandle (.plain spelling isConst .handle)
  | named {spelling isConst} : IsHandle (.plain spelling isConst (.named nativeHandle))

theorem primitive_ne_nativeHandle {base name : String} (found : primitive? base = some name) :
    name ≠ nativeHandle := by
  have table : ∀ entry ∈ primitives, entry.2 ≠ nativeHandle := by decide
  exact table (base, name) (mem_primitives found)

-- A scalar is written with a name of its own, and none of the table is that of a native handle.
def scalar? : TypeMapping → Option String
  | .plain _ _ (.scalar name) => some name
  | _ => none

theorem scalar?_withSpelling (m : TypeMapping) (spelling : String) :
    (m.withSpelling spelling).scalar? = m.scalar? := by
  cases m with
  | plain spelling isConst form => cases form <;> rfl
  | array spelling length element => rfl

theorem scalar?_ofShape (spelling : String) (shape : CType.Shape) :
    (ofShape spelling shape).scalar? ≠ some nativeHandle := by
  unfold ofShape
  split
  · exact nofun
  · split
    · rename_i found _
      exact fun same => primitive_ne_nativeHandle found (Option.some.inj same)
    · split <;> exact nofun
    · exact nofun
    · split
      · decide
      · exact nofun

theorem scalar?_mapType (type : String) : (mapType type).scalar? ≠ some nativeHandle := by
  refine mapType_induction (P := fun m => m.scalar? ≠ some nativeHandle) type ?_ ?_ ?_ ?_
  · exact fun m spelling other => by rwa [scalar?_withSpelling]
  · exact fun _ => nofun
  · exact scalar?_ofShape
  · exact fun _ _ _ _ => nofun

theorem paramAbi_mapType_iff {type : String} :
    (mapType type).paramAbi = nativeHandle ↔ (mapType type).IsHandle := by
  have scalar := scalar?_mapType type
  have noStar : '*' ∉ nativeHandle.toList := by decide
  constructor
  · intro same
    cases mapped : mapType type with
    | array spelling length element =>
        rw [mapped] at same
        exact absurd same (pointerTo_ne noStar element.isConst element.abiName)
    | plain spelling isConst form =>
        rw [mapped] at same scalar
        cases form with
        | scalar name => exact absurd (congrArg some same) scalar
        | handle => exact .address
        | characters => exact absurd same (pointerTo_ne noStar isConst "::core::ffi::c_char")
        | pointer pointee extra =>
            exact absurd same (throughPointers_ne noStar isConst pointee extra)
        | named name =>
            obtain rfl : name = nativeHandle := same
            exact .named
  · generalize mapType type = m
    intro handle
    cases handle <;> rfl

end TypeMapping

namespace BoundFunction

/-- The native function takes a single handle: it is a method without parameters that takes its
instance, or takes none and has one parameter. -/
inductive TakesOneHandle (f : BoundFunction) : Prop
  | receiver : f.takesSelf = true → f.decl.parameters = [] → TakesOneHandle f
  | parameter {p} : f.takesSelf = false → f.decl.parameters = [p] → (mapType p.type).IsHandle →
      TakesOneHandle f

theorem types_params_binding (options : Options) (f : BoundFunction) :
    (f.binding mapType options).params.map (·.type) =
      f.paramTypes.map fun type => (mapType type).paramAbi := by
  have mappings := congrArg (List.map TypeMapping.paramAbi) (f.map_snd_nativeParams mapType)
  simp only [List.map_map, Function.comp_def] at mappings
  simp only [binding, List.map_map, Function.comp_def, mappings]

theorem takesOneHandle_iff (options : Options) (f : BoundFunction) :
    (f.binding mapType options).params.map (·.type) = [nativeHandle] ↔ f.TakesOneHandle := by
  rw [types_params_binding, paramTypes]
  have self : (mapType selfType).paramAbi = nativeHandle := by rw [mapType_selfType]; rfl
  constructor
  · intro single
    cases takesSelf : f.takesSelf with
    | true =>
        refine .receiver takesSelf ?_
        simpa [takesSelf, self] using single
    | false =>
        simp only [takesSelf, Bool.false_eq_true, if_false, List.nil_append, List.map_map] at single
        obtain ⟨p, one, abi⟩ := List.map_eq_singleton_iff.mp single
        rw [Function.comp_apply] at abi
        exact .parameter takesSelf one (TypeMapping.paramAbi_mapType_iff.mp abi)
  · intro takes
    cases takes with
    | receiver takesSelf none => simp [takesSelf, none, self]
    | parameter free one handle =>
        simp [free, one, TypeMapping.paramAbi_mapType_iff.mpr handle]

end BoundFunction

namespace WrappersSection

/-- The bindings that owning types release through take a single handle exactly when the functions
of the set that are destructors of owned types do. -/
theorem releasesTypeCheck_iff (options : Options) (set : DeclarationSet) :
    (∀ o ∈ owners options set, o.release = .binding → ∀ f ∈ set.functions, f.symbol = o.destroy →
      (f.binding mapType options).params.map (·.type) = [nativeHandle]) ↔
    ∀ f ∈ set.functions, f.symbol ∈ set.ownedTypes.map destroySymbol → f.TakesOneHandle := by
  rw [← destroy_owners options set]
  constructor
  · intro fits f declared destructor
    obtain ⟨o, member, same⟩ := List.mem_map.mp destructor
    have known : o.destroy ∈ set.symbols := same ▸ List.mem_map_of_mem declared
    exact (f.takesOneHandle_iff options).mp
      (fits o member ((release_eq_binding_iff member).mpr known) f declared same.symm)
  · intro single o member _ f declared same
    have destructor : f.symbol ∈ (owners options set).map (·.destroy) :=
      same ▸ List.mem_map_of_mem member
    exact (f.takesOneHandle_iff options).mpr (single f declared destructor)

end WrappersSection

/-! ## The statement -/

/-- Which of the owning types of a tree release through a binding, and when these bindings take the
handle that they are given. -/
structure ChecksReleases (set : DeclarationSet) (options : Options) (owners : List OwnerItem) :
    Prop where
  found : ∀ o ∈ owners, o.release = .binding ↔ o.destroy ∈ set.symbols
  parameters : ∀ f ∈ set.deduplicated.functions,
    (f.binding mapType options).params.map (·.type) = [nativeHandle] ↔ f.TakesOneHandle
  all : (∀ o ∈ owners, o.release = .binding →
      ∀ f ∈ set.deduplicated.functions, f.symbol = o.destroy →
        (f.binding mapType options).params.map (·.type) = [nativeHandle]) ↔
    ∀ f ∈ set.deduplicated.functions,
      f.symbol ∈ set.deduplicated.ownedTypes.map destroySymbol → f.TakesOneHandle

theorem generate_checksReleases {tree : List Declaration} {options : Options}
    {generation : Generation} (h : generate tree options = .ok generation) :
    ∃ set owners, DeclarationSet.ofTree tree = .ok set ∧
      ResolvesReleases set options generation.code owners ∧ ChecksReleases set options owners := by
  obtain ⟨set, flat, content⟩ := content_generate h
  refine ⟨set, _, flat, resolvesReleases content, ?_⟩
  exact
    { found o member := by
        rw [WrappersSection.release_eq_binding_iff member, set.mem_symbols_deduplicated]
      parameters f _ := f.takesOneHandle_iff options
      all := WrappersSection.releasesTypeCheck_iff options set.deduplicated }

theorem generate_checksReleases_node :
    let tree : List Declaration := [.struct ⟨"Node", [], none⟩, .function
      ⟨"node_destroy", "void", [⟨"node", "Node*"⟩], none, false, false⟩]
    let options : Options := ⟨"Demo", "demo", .cdecl⟩
    ∃ generation, generate tree options = .ok generation ∧
      ∃ set owners, DeclarationSet.ofTree tree = .ok set ∧
        ResolvesReleases set options generation.code owners ∧ ChecksReleases set options owners :=
  ⟨_, rfl, generate_checksReleases rfl⟩

/-- The release of a struct hands its handle to a binding that takes a pointer to bytes. -/
theorem releases_buffer_misfit :
    let tree : List Declaration := [.struct ⟨"Buffer", [], none⟩, .function
      ⟨"buffer_destroy", "void", [⟨"data", "unsigned char*"⟩], none, false, false⟩]
    let options : Options := ⟨"Demo", "demo", .cdecl⟩
    ∃ set, DeclarationSet.ofTree tree = .ok set ∧
      ∃ o ∈ WrappersSection.owners options set.deduplicated,
        ∃ f ∈ set.deduplicated.functions, o.release = .binding ∧ f.symbol = o.destroy ∧
          o.Releases "bindings::buffer_destroy" ∧
          (f.binding mapType options).symbol = "buffer_destroy" ∧
          (f.binding mapType options).params.map (·.type) = ["*mut u8"] := by
  refine ⟨_, rfl, _, List.mem_cons_self, _, List.mem_cons_self, by decide, by decide, ?_, ?_, ?_⟩
  · exact OwnerItem.releases_releasePath _
  · decide
  · decide

end ForeignBindings
