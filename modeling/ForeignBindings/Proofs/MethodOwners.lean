import ForeignBindings.Proofs.Generation
import ForeignBindings.Proofs.KindPriority

/-!
# Methods and the classes that own them

Functions are kept by their symbols and classes by their names, each without a look at the other. So
a class that gives way to another type of its name leaves its methods behind. `generate_methodsKept`
says which classes and which methods are kept, and when every method that is kept has its class.
-/

namespace ForeignBindings
open Layout Text

namespace DeclarationSet

/-! ## Which types and methods are kept -/

theorem mem_classes_iff {set : DeclarationSet} {owner : ClassDecl} :
    owner ∈ set.classes ↔ TypeDeclaration.classType owner ∈ set.types := by
  simp [types]

theorem method_mem_byKind {decls : List Declaration} {owner : ClassDecl} {method : FunctionDecl} :
    ⟨some owner, method⟩ ∈ (byKind decls).functions ↔
      owner ∈ (byKind decls).classes ∧ method ∈ owner.methods := by
  simp only [byKind, List.mem_flatMap, List.mem_filterMap]
  have contributed (decl : Declaration) :
      (⟨some owner, method⟩ : BoundFunction) ∈ decl.boundFunctions ↔
        decl.class? = some owner ∧ method ∈ owner.methods := by
    cases decl with
    | classType name methods fields documentation isAbstract =>
        simp only [Declaration.boundFunctions, Declaration.function?, Declaration.class?,
          List.mem_map, BoundFunction.mk.injEq, Option.some.injEq]
        constructor
        · rintro ⟨m, listed, rfl, rfl⟩
          exact ⟨rfl, listed⟩
        · rintro ⟨rfl, listed⟩
          exact ⟨method, listed, rfl, rfl⟩
    | function | struct | enum | typedef | scope =>
        simp [Declaration.boundFunctions, Declaration.function?, Declaration.class?]
  simp only [contributed, ← and_assoc, exists_and_right]

/-- The methods and classes of a tree that deduplication keeps. A method stays when its symbol comes
first, whether its class stays or not; a class stays when it is the first of its name and no struct
or enum has that name. -/
structure KeepsMethods (tree : List Declaration) (set : DeclarationSet) : Prop where
  owners : ∀ f ∈ set.deduplicated.functions, ∀ owner, f.owner = some owner →
    owner ∈ set.classes ∧ f.decl ∈ owner.methods ∧
      set.deduplicated.typeNames.count owner.name = 1
  classes : ∀ owner, owner ∈ set.deduplicated.classes ↔
    FirstOfForemostKind (typeDeclarations tree) owner.name (.classType owner)
  methods : ∀ owner ∈ set.classes, ∀ method ∈ owner.methods,
    (⟨some owner, method⟩ ∈ set.deduplicated.functions ↔
      IsFirst (·.symbol) set.functions ⟨some owner, method⟩)
  noOrphans : (∀ f ∈ set.deduplicated.functions, ∀ owner, f.owner = some owner →
      owner ∈ set.deduplicated.classes) ↔
    ∀ owner ∈ set.classes, ∀ method ∈ owner.methods,
      IsFirst (·.symbol) set.functions ⟨some owner, method⟩ →
      FirstOfForemostKind (typeDeclarations tree) owner.name (.classType owner)

theorem mem_functions_deduplicated_iff {set : DeclarationSet} {f : BoundFunction} :
    f ∈ set.deduplicated.functions ↔ IsFirst (·.symbol) set.functions f := by
  rw [deduplicated, mem_firstBy_iff, and_iff_right List.not_mem_nil]

theorem owner_mem_classes {tree : List Declaration} {f : BoundFunction} {owner : ClassDecl}
    (kept : f ∈ (byKind (depthFirst tree)).deduplicated.functions) (owned : f.owner = some owner) :
    owner ∈ (byKind (depthFirst tree)).classes ∧ f.decl ∈ owner.methods := by
  have member : f ∈ (byKind (depthFirst tree)).functions := (firstBy_sublist _ _ _).subset kept
  obtain ⟨_, method⟩ := f
  subst owned
  exact method_mem_byKind.mp member

theorem keepsMethods {tree : List Declaration} {set : DeclarationSet}
    (flat : ofTree tree = .ok set) : KeepsMethods tree set := by
  obtain ⟨-, rfl⟩ := ((flattensDepthFirst tree).buckets set).mp flat
  have classes (owner : ClassDecl) : owner ∈ (byKind (depthFirst tree)).deduplicated.classes ↔
      FirstOfForemostKind (typeDeclarations tree) owner.name (.classType owner) :=
    mem_classes_iff.trans mem_types_deduplicated_iff
  refine
    { owners := fun f kept owner owned => ?_
      classes := classes
      methods := fun _ _ _ _ => mem_functions_deduplicated_iff
      noOrphans := ⟨fun adopted owner declared method listed first => ?_,
        fun adopted f kept owner owned => ?_⟩ }
  · obtain ⟨declared, listed⟩ := owner_mem_classes kept owned
    refine ⟨declared, listed, ?_⟩
    rw [count_typeNames_deduplicated, if_pos]
    refine List.mem_append_left _ (List.mem_append_right _ ?_)
    exact List.mem_map_of_mem declared
  · exact (classes owner).mp (adopted _ (mem_functions_deduplicated_iff.mpr first) owner rfl)
  · obtain ⟨declared, listed⟩ := owner_mem_classes kept owned
    have first := mem_functions_deduplicated_iff.mp kept
    obtain ⟨_, method⟩ := f
    subst owned
    exact (classes owner).mpr (adopted owner declared method listed first)

end DeclarationSet

/-! ## The statement -/

/-- The functions that the bindings and the wrappers of a tree are emitted for are the kept ones, and
`KeepsMethods` says which methods of which classes are among them. -/
theorem generate_methodsKept {tree : List Declaration} {options : Options}
    {generation : Generation} (h : generate tree options = .ok generation) :
    ∃ set, DeclarationSet.ofTree tree = .ok set ∧
      generation.code.content? .bindings = some (unlines (SectionKind.bindings.header options ++
        "use super::types::*;" ::
          spaced (set.deduplicated.functions.map fun f => (f.binding mapType options).lines))) ∧
      generation.code.content? .wrappers = some (unlines (SectionKind.wrappers.header options ++
        (WrappersSection.preamble ++
          spaced (set.deduplicated.functions.map fun f => (f.callThrough mapType).lines) ++
          spaced ((WrappersSection.owners options set.deduplicated).map (·.lines))))) ∧
      DeclarationSet.KeepsMethods tree set := by
  obtain ⟨set, flat, content⟩ := content_generate h
  refine ⟨set, flat, ?_, ?_, DeclarationSet.keepsMethods flat⟩
  · rw [content .bindings, sectionText, if_neg (by decide), BindingsSection.lines,
      BindingsSection.items, List.map_map]
    rfl
  · rw [content .wrappers, sectionText, if_neg (by decide), WrappersSection.lines,
      WrappersSection.callThroughs, List.map_map]
    rfl

/-- A class behind a struct of its name, and a class that is declared twice with other methods. -/
theorem generate_methodsKept_pool :
    let method (name : String) : Declaration := .function ⟨name, "void", [], none, false, false⟩
    let tree : List Declaration := [.struct ⟨"Foo", [], none⟩,
      .classType "Pool" [method "open"] [] none false,
      .scope "detail" [.classType "Foo" [method "bar"] [] none false,
        .classType "Pool" [method "open", method "close"] [] none false]]
    let options : Options := ⟨"Ui", "ui", .cdecl⟩
    ∃ generation, generate tree options = .ok generation ∧
      ∃ set, DeclarationSet.ofTree tree = .ok set ∧
        set.deduplicated.functions.map (·.symbol) = ["Pool_open", "Foo_bar", "Pool_close"] ∧
        DeclarationSet.KeepsMethods tree set := by
  intro method tree options
  have generated : ∃ generation, generate tree options = .ok generation := ⟨_, rfl⟩
  obtain ⟨generation, generated⟩ := generated
  obtain ⟨set, flat, -, -, keeps⟩ := generate_methodsKept generated
  refine ⟨generation, generated, set, flat, ?_, keeps⟩
  cases flat
  decide

/-- A struct takes the name of a class, and the method of the class stays. -/
theorem deduplicated_foo_keeps_orphan :
    let bar : FunctionDecl := ⟨"bar", "void", [], none, false, false⟩
    let foo : ClassDecl := ⟨"Foo", [bar], [], none, false⟩
    let tree : List Declaration := [.struct ⟨"Foo", [], none⟩,
      .classType "Foo" [.function bar] [] none false]
    ∃ set, DeclarationSet.ofTree tree = .ok set ∧
      set.deduplicated.functions = [⟨some foo, bar⟩] ∧ foo ∉ set.deduplicated.classes :=
  ⟨_, rfl, by decide, by decide⟩

end ForeignBindings
