import ForeignBindings.Proofs.Deduplication
import ForeignBindings.Proofs.Generation
import ForeignBindings.Proofs.HelperNames
import ForeignBindings.Proofs.UnresolvedTypes

/-!
# Types with marshaling helpers

A plain-data type has a group of helpers exactly when it is the first one with its name in snake
case (`GroupsFor.mem_kept`), and the functions of the group work on the record that is emitted for
it. A type without a group is reported.
-/

namespace ForeignBindings
open Identifier Layout Text

/-! ## What a group does -/

/-- The six functions of a group allocate, release and copy values of a type and arrays of them. -/
structure HelperGroup.Serves (g : HelperGroup) (type : String) : Prop where
  allocates :
    block s!"pub fn alloc_{g.stem}() -> NativeHandle" [s!"allocate(Layout::new::<{type}>())"] <:+:
      g.lines
  releases :
    block s!"pub unsafe fn free_{g.stem}(handle: NativeHandle)"
      [s!"unsafe \x7b release(handle, Layout::new::<{type}>()) \x7d"] <:+: g.lines
  copiesIn :
    block s!"pub fn {g.stem}_to_native(value: &{type}) -> NativeHandle"
      [s!"let handle = alloc_{g.stem}();",
        s!"unsafe \x7b handle.as_ptr::<{type}>().write(*value) \x7d;", "handle"] <:+: g.lines
  copiesOut :
    block s!"pub unsafe fn {g.stem}_from_native(handle: NativeHandle) -> {type}"
      [s!"unsafe \x7b handle.as_ptr::<{type}>().read() \x7d"] <:+: g.lines
  copiesArray :
    block s!"pub fn {g.stem}_array_to_native(values: &[{type}]) -> NativeHandle"
      [s!"let Ok(layout) = Layout::array::<{type}>(values.len()) else \x7b",
        "    return NativeHandle::NULL;",
        "\x7d;",
        "let handle = allocate(layout);",
        "unsafe \x7b",
        s!"    ::core::ptr::copy_nonoverlapping(values.as_ptr(), handle.as_ptr::<{type}>(), " ++
          "values.len())",
        "\x7d;",
        "handle"] <:+: g.lines
  releasesArray :
    block s!"pub unsafe fn free_{g.stem}_array(handle: NativeHandle, len: usize)"
      (block s!"if let Ok(layout) = Layout::array::<{type}>(len)"
        ["unsafe \x7b release(handle, layout) \x7d"]) <:+: g.lines
  defines : g.lines.filterMap definedFunction? = g.functionNames

theorem HelperGroup.serves_ofName (name : String) :
    (HelperGroup.ofName name).Serves (ident name "Unnamed") := by
  constructor
  case defines => exact filterMap_lines (isWord_snakeCase name)
  all_goals
    simp only [lines, ofName]
    repeat' first
      | with_reducible exact (List.suffix_append _ _).isInfix
      | refine List.IsInfix.trans ?_ (List.prefix_append _ _).isInfix

/-! ## Which types have one -/

/-- The plain-data types of a set are its structs and its classes without methods. `kept` of them
have a group of helpers in the memory section with these lines, and `skipped` have none. -/
structure GroupsFor (set : DeclarationSet) (types lines kept skipped : List String) : Prop where
  plain : types =
    set.structs.map (·.name) ++ (set.classes.filter (·.methods.isEmpty)).map (·.name)
  distinct : types.Nodup
  first : KeepsFirst snakeCase types kept skipped
  mem_kept : ∀ name, name ∈ kept ↔ IsFirst snakeCase types name
  once : ∀ name ∈ types, kept.count name + skipped.count name = 1
  lines : lines =
    MemorySection.preamble ++ spaced (kept.map fun name => (HelperGroup.ofName name).lines)
  serves : ∀ name ∈ kept, (HelperGroup.ofName name).Serves (ident name "Unnamed")
  emitted : ∀ name ∈ types, ∃ item,
    .record item ∈ TypesSection.items mapType set ∧ item.name = ident name "Unnamed"
  complete : kept = types ↔ (types.map snakeCase).Nodup

namespace DeclarationSet

theorem nodup_records_deduplicated (set : DeclarationSet) (p : ClassDecl → Bool) :
    (set.deduplicated.structs.map (·.name) ++
      (set.deduplicated.classes.filter p).map (·.name)).Nodup := by
  refine List.Nodup.sublist ?_ set.nodup_declaredNames_deduplicated
  refine List.Sublist.trans ?_ (List.sublist_append_left _ _)
  exact ((List.sublist_append_left _ _).append (List.filter_sublist.map _))

theorem exists_record {set : DeclarationSet} {name : String} (member : name ∈ set.plainDataTypes) :
    ∃ item, .record item ∈ TypesSection.items mapType set ∧ item.name = ident name "Unnamed" := by
  simp only [TypesSection.items, List.mem_append, List.mem_map]
  rcases List.mem_append.mp member with isStruct | isClass
  · obtain ⟨s, declared, rfl⟩ := List.mem_map.mp isStruct
    exact ⟨s.item mapType, .inl (.inl (.inr ⟨s, declared, rfl⟩)), rfl⟩
  · obtain ⟨c, declared, rfl⟩ := List.mem_map.mp isClass
    exact ⟨c.item mapType, .inr ⟨c, List.mem_of_mem_filter declared, rfl⟩, rfl⟩

end DeclarationSet

theorem groupsFor_deduplicated (set : DeclarationSet) :
    GroupsFor set.deduplicated set.deduplicated.plainDataTypes
      (MemorySection.lines set.deduplicated.plainDataTypes)
      (firstBy snakeCase [] set.deduplicated.plainDataTypes)
      (repeatsBy snakeCase [] set.deduplicated.plainDataTypes) where
  plain := rfl
  distinct := set.nodup_records_deduplicated _
  first := keepsFirst ..
  mem_kept name := by rw [mem_firstBy_iff, and_iff_right List.not_mem_nil]
  once name member := by
    have distinct : set.deduplicated.plainDataTypes.Nodup := set.nodup_records_deduplicated _
    rw [← List.count_append, (firstBy_append_repeatsBy_perm ..).count_eq,
      List.count_eq_one_of_mem distinct member]
  lines := by rw [MemorySection.lines, MemorySection.items, List.map_map]; rfl
  serves name _ := HelperGroup.serves_ofName name
  emitted _ := DeclarationSet.exists_record
  complete := by
    constructor
    · intro all
      rw [← all]
      exact keys_nodup_firstBy ..
    · intro stems
      exact firstBy_eq_self stems fun _ _ => List.not_mem_nil

/-! ## Reports -/

/-- The type that an event reports as left without helpers, and its name in snake case. -/
def Event.skippedHelper? : Event → Option (String × String)
  | .duplicateHelper name helper => some (name, helper)
  | _ => none

theorem skipped_memoryEvents (names : List String) :
    (MemorySection.events names).filterMap (·.skippedHelper?) =
      (repeatsBy snakeCase [] names).map fun name => (name, snakeCase name) := by
  unfold MemorySection.events repeatsBy
  induction markFirst snakeCase [] names with
  | nil => rfl
  | cons entry rest ih =>
      obtain ⟨name, isFirst⟩ := entry
      cases isFirst <;> simp_all [Event.skippedHelper?]

theorem skipped_emissionEvents (mapper : TypeMapper) (options : Options) (set : DeclarationSet)
    (callbacks : List Callback) :
    (emissionEvents mapper options set callbacks).filterMap (·.skippedHelper?) =
      (repeatsBy snakeCase [] set.plainDataTypes).map fun name => (name, snakeCase name) := by
  simp only [emissionEvents, List.filterMap_append, skipped_memoryEvents]
  simp [TypesSection.events, EnumDecl.events, BindingsSection.events, CallbacksSection.events,
    WrappersSection.events, Event.skippedHelper?, List.filterMap_flatMap]

theorem skipped_generateFrom (set : DeclarationSet) (options : Options) :
    (generateFrom set options).events.filterMap (·.skippedHelper?) =
      (repeatsBy snakeCase [] set.plainDataTypes).map fun name => (name, snakeCase name) := by
  obtain ⟨mapper, events⟩ := filterMap_generateFrom (·.skippedHelper?)
    (fun _ _ => rfl) (fun _ _ _ => rfl) (fun _ _ => rfl) (fun _ => rfl) (fun _ _ => rfl) set options
  have unresolved : (unresolvedEvents mapType set).filterMap (·.skippedHelper?) = [] := by
    simp [unresolvedEvents, Event.skippedHelper?]
  rw [events, unresolved, skipped_emissionEvents, List.nil_append]

theorem skipped_duplicateEvents (set : DeclarationSet) :
    set.duplicateEvents.filterMap (·.skippedHelper?) = [] := by
  simp [DeclarationSet.duplicateEvents, Event.skippedHelper?]

/-! ## The statement -/

theorem generate_groupsFor {tree : List Declaration} {options : Options} {generation : Generation}
    (h : generate tree options = .ok generation) :
    ∃ set types lines kept skipped, DeclarationSet.ofTree tree = .ok set ∧
      generation.code.content? .memory =
        some (unlines (SectionKind.memory.header options ++ lines)) ∧
      GroupsFor set.deduplicated types lines kept skipped ∧
      generation.events.filterMap (·.skippedHelper?) =
        skipped.map fun name => (name, snakeCase name) := by
  obtain ⟨set, flat, code, events⟩ := eq_of_generate h
  refine ⟨set, _, _, _, _, flat, ?_, groupsFor_deduplicated set, ?_⟩
  · rw [code, content_generateFrom]
    rfl
  · rw [events, List.filterMap_append, skipped_duplicateEvents, List.nil_append,
      skipped_generateFrom]

theorem generate_groupsFor_node :
    let tree : List Declaration := [.struct ⟨"Node", [], none⟩, .struct ⟨"Point", [], none⟩]
    let options : Options := ⟨"Demo", "demo", .cdecl⟩
    ∃ generation, generate tree options = .ok generation ∧
      ∃ set types lines kept skipped, DeclarationSet.ofTree tree = .ok set ∧
        generation.code.content? .memory =
          some (unlines (SectionKind.memory.header options ++ lines)) ∧
        GroupsFor set.deduplicated types lines kept skipped ∧
        generation.events.filterMap (·.skippedHelper?) =
          skipped.map fun name => (name, snakeCase name) :=
  ⟨_, rfl, generate_groupsFor rfl⟩

/-- Of two structs whose names differ in their case and underscores only, the second has no
helpers. -/
theorem generate_fooBar_skips_second :
    let tree : List Declaration := [.struct ⟨"FooBar", [], none⟩, .struct ⟨"foo_bar", [], none⟩]
    let options : Options := ⟨"Demo", "demo", .cdecl⟩
    ∃ generation set, generate tree options = .ok generation ∧
      DeclarationSet.ofTree tree = .ok set ∧
      set.deduplicated.structs.map (·.name) = ["FooBar", "foo_bar"] ∧
      generation.code.content? .memory =
        some (unlines (SectionKind.memory.header options ++ MemorySection.preamble ++
          spaced [(HelperGroup.ofName "FooBar").lines])) ∧
      ¬(HelperGroup.ofName "FooBar").Serves "foo_bar" := by
  refine ⟨_, _, rfl, rfl, by decide, content_generateFrom _ _ _, fun serves => ?_⟩
  have head := serves.copiesIn.subset List.mem_cons_self
  revert head
  decide

end ForeignBindings
