import ForeignBindings.Proofs.AddressExposure
import ForeignBindings.Proofs.FirstOccurrence
import Mathlib.Data.Finset.Card
import Mathlib.Data.Finset.Dedup

/-!
# One mapper for all sections

The report on unknown types and four of the emitters ask one mapper for types, one after the other,
and every question leaves its answer in the mapper. Here the sections are written in this way: an
item asks for its types, in the order in which it spells them, and is written from the answers. A
mapper answers like `mapType` whatever it was asked before (`run_ask`), and an item looks at nothing
but the types that it asked for (`AsksFor`). So a section has one text for all mappers
(`run_writeSection`), and the sections of `generateFrom` are those of one run (`run_writeAll`).
-/

namespace ForeignBindings
open Identifier Layout Text

/-! ## Asking -/

namespace TypeMapper

def ask (type : String) : StateM TypeMapper TypeMapping := modifyGet fun mapper => mapper.map type

/-- Asks for types in turn. -/
def askAll (types : List String) : StateM TypeMapper (List TypeMapping) := types.mapM ask

theorem run_ask (type : String) (mapper : TypeMapper) :
    (ask type).run mapper = pure (mapType type, mapper.note type) := by
  show (mapper.lookup type, mapper.note type) = _
  rw [lookup_eq_mapType]
  rfl

theorem noteAll_append (mapper : TypeMapper) (as bs : List String) :
    mapper.noteAll (as ++ bs) = (mapper.noteAll as).noteAll bs := List.foldl_append

/-- Steps that leave `result x` as their answer and note the types `asks x`, one after the other. -/
theorem run_mapM {α β : Type} {step : α → StateM TypeMapper β} {result : α → β}
    {asks : α → List String}
    (run_step : ∀ x mapper, (step x).run mapper = pure (result x, mapper.noteAll (asks x)))
    (xs : List α) (mapper : TypeMapper) :
    (xs.mapM step).run mapper = pure (xs.map result, mapper.noteAll (xs.flatMap asks)) := by
  induction xs generalizing mapper with
  | nil => rfl
  | cons x xs ih =>
      rw [List.mapM_cons]
      simp only [StateT.run_bind, run_step, pure_bind, ih, StateT.run_pure, List.flatMap_cons,
        noteAll_append, List.map_cons]

theorem run_askAll (types : List String) (mapper : TypeMapper) :
    (askAll types).run mapper = pure (types.map mapType, mapper.noteAll types) := by
  have each (type : String) (mapper : TypeMapper) :
      (ask type).run mapper = pure (mapType type, mapper.noteAll [type]) := run_ask type mapper
  rw [askAll, run_mapM each, List.flatMap_singleton']

theorem mem_noteAll_iff {mapper : TypeMapper} {types : List String} {type : String} :
    type ∈ (mapper.noteAll types).cache ↔ type ∈ types ∨ type ∈ mapper.cache := by
  induction types generalizing mapper with
  | nil => simp [noteAll]
  | cons first types ih =>
      have rest : mapper.noteAll (first :: types) = (mapper.note first).noteAll types := rfl
      rw [rest, ih, mem_note_iff, List.mem_cons]
      tauto

theorem size_note (mapper : TypeMapper) (type : String) :
    (mapper.note type).size = if type ∈ mapper.cache then mapper.size else mapper.size + 1 := by
  unfold note size
  split
  · rfl
  · rename_i new
    rw [Std.HashMap.size_insert, if_neg new]

theorem size_noteAll (types : List String) : (empty.noteAll types).size = types.toFinset.card := by
  induction types using List.reverseRecOn with
  | nil => rfl
  | append_singleton types type ih =>
      have last : empty.noteAll (types ++ [type]) = (empty.noteAll types).note type := by
        rw [noteAll_append]
        rfl
      have asked : type ∈ (empty.noteAll types).cache ↔ type ∈ types := by
        rw [mem_noteAll_iff]
        simp [empty]
      have distinct : (types ++ [type]).toFinset = insert type types.toFinset := by
        ext other
        simp
      rw [last, size_note, if_congr asked rfl rfl, ih, distinct]
      by_cases old : type ∈ types
      · rw [if_pos old, Finset.insert_eq_of_mem (List.mem_toFinset.mpr old)]
      · rw [if_neg old, Finset.card_insert_of_notMem (by simpa using old)]

end TypeMapper

/-! ## Writing items -/

open TypeMapper

/-- What stands for the answer to a question that was not asked. -/
def unasked : TypeMapping := .plain "" false (.named "")

/-- The answers to some questions, by type. -/
def answerTo : List String → List TypeMapping → String → TypeMapping
  | asked :: types, answer :: answers, type =>
    if type = asked then answer else answerTo types answers type
  | _, _, _ => unasked

/-- Asks for the types of an item and writes it from the answers. -/
def writeItem {α β : Type} (asks : α → List String) (item : (String → TypeMapping) → α → β)
    (x : α) : StateM TypeMapper β := do
  return item (answerTo (asks x) (← askAll (asks x))) x

/-- What an item is written as depends on the types that it asks for. -/
def AsksFor {α β : Type} (asks : α → List String) (item : (String → TypeMapping) → α → β) : Prop :=
  ∀ x map map', (∀ type ∈ asks x, map type = map' type) → item map x = item map' x

theorem answerTo_of_mem {types : List String} {type : String} (asked : type ∈ types) :
    answerTo types (types.map mapType) type = mapType type := by
  induction types with
  | nil => cases asked
  | cons first types ih =>
      rw [List.map_cons, answerTo]
      by_cases same : type = first
      · rw [if_pos same, same]
      · rw [if_neg same, ih ((List.mem_cons.mp asked).resolve_left same)]

theorem run_writeItem {α β : Type} {asks : α → List String} {item : (String → TypeMapping) → α → β}
    (asksFor : AsksFor asks item) (x : α) (mapper : TypeMapper) :
    (writeItem asks item x).run mapper = pure (item mapType x, mapper.noteAll (asks x)) := by
  have answers : item (answerTo (asks x) ((asks x).map mapType)) x = item mapType x :=
    asksFor x _ _ fun type asked => answerTo_of_mem asked
  simp only [writeItem, StateT.run_bind, run_askAll, pure_bind, StateT.run_pure, answers]

theorem run_mapM_writeItem {α β : Type} {asks : α → List String}
    {item : (String → TypeMapping) → α → β} (asksFor : AsksFor asks item) (xs : List α)
    (mapper : TypeMapper) :
    (xs.mapM (writeItem asks item)).run mapper =
      pure (xs.map (item mapType), mapper.noteAll (xs.flatMap asks)) :=
  run_mapM (run_writeItem asksFor) xs mapper

/-! ## The items of the sections -/

def fieldTypes (fields : List Field) : List String := fields.map (·.type)

namespace BoundFunction

/-- The types that a binding asks for: those of its signature, and for the remarks about strings
those of the declaration once more. -/
def bindingAsks (f : BoundFunction) : List String :=
  f.paramTypes ++ f.decl.returnType :: f.decl.parameters.map (·.type) ++ [f.decl.returnType]

def wrapperAsks (f : BoundFunction) : List String := f.paramTypes ++ [f.decl.returnType]

end BoundFunction

theorem recordFields_congr {fields : List Field} {map map' : String → TypeMapping}
    (agree : ∀ type ∈ fieldTypes fields, map type = map' type) :
    recordFields map fields = recordFields map' fields := by
  unfold recordFields
  rw [List.mapIdx_eq_mapIdx_iff]
  intro i inside
  simp only [agree _ (List.mem_map_of_mem (List.getElem_mem inside))]

theorem asksFor_struct : AsksFor (fun s => fieldTypes s.fields) StructDecl.item := by
  intro s map map' agree
  unfold StructDecl.item
  rw [recordFields_congr agree]

theorem asksFor_class : AsksFor (fun c => fieldTypes c.fields) ClassDecl.item := by
  intro c map map' agree
  unfold ClassDecl.item
  rw [recordFields_congr agree]

theorem asksFor_typedef : AsksFor (fun t => [t.underlyingType]) TypedefDecl.item := by
  intro t map map' agree
  unfold TypedefDecl.item
  rw [agree _ (List.mem_singleton_self _)]

namespace BoundFunction

theorem declaredParams_congr {f : BoundFunction} {map map' : String → TypeMapping}
    (agree : ∀ p ∈ f.decl.parameters, map p.type = map' p.type) :
    f.declaredParams map = f.declaredParams map' := by
  unfold declaredParams
  rw [List.mapIdx_eq_mapIdx_iff]
  intro i inside
  rw [agree _ (List.getElem_mem inside)]

theorem nativeParams_congr {f : BoundFunction} {map map' : String → TypeMapping}
    (agree : ∀ type ∈ f.paramTypes, map type = map' type) :
    f.nativeParams map = f.nativeParams map' := by
  simp only [paramTypes, List.forall_mem_append, List.forall_mem_map] at agree
  unfold nativeParams
  rw [declaredParams_congr agree.2]
  congr 1
  split
  · rename_i takesSelf
    rw [agree.1 selfType (by simp [takesSelf])]
  · rfl

theorem asksFor_binding (options : Options) :
    AsksFor bindingAsks fun map f => f.binding map options := by
  intro f map map' agree
  simp only [bindingAsks, List.forall_mem_append, List.forall_mem_cons, List.forall_mem_map]
    at agree
  obtain ⟨⟨params, result, declared⟩, -⟩ := agree
  show f.binding map options = f.binding map' options
  unfold binding bindingDocs contractLines nativeResult
  rw [nativeParams_congr params, declaredParams_congr declared, result]

theorem asksFor_wrapper : AsksFor wrapperAsks fun map f => f.callThrough map := by
  intro f map map' agree
  simp only [wrapperAsks, List.forall_mem_append, List.forall_mem_singleton] at agree
  show f.callThrough map = f.callThrough map'
  unfold callThrough wrapperDocs needsUnsafe nativeResult
  rw [nativeParams_congr agree.1, agree.2]

end BoundFunction

theorem asksFor_callback (convention : CallingConvention) :
    AsksFor Callback.spelledTypes fun map c => c.item map convention := by
  intro c map map' agree
  simp only [Callback.spelledTypes, List.forall_mem_append, List.forall_mem_singleton] at agree
  have params : c.signature.parameterTypes.map (map · |>.paramAbi) =
      c.signature.parameterTypes.map (map' · |>.paramAbi) :=
    List.map_congr_left fun type member => by rw [agree.1 type member]
  show c.item map convention = c.item map' convention
  unfold Callback.item
  rw [params, agree.2]

theorem asksFor_typeUse (known : List String) :
    AsksFor (fun use => [use.type]) fun map use => TypeUse.unknownName? map known use := by
  intro use map map' agree
  show use.unknownName? map known = use.unknownName? map' known
  unfold TypeUse.unknownName?
  rw [agree _ (List.mem_singleton_self _)]

/-! ## Sections -/

def reportUnresolved (set : DeclarationSet) : StateM TypeMapper (List Event) := do
  let found ← (TypeUse.ofSet set).mapM <|
    writeItem (fun use => [use.type]) fun map use => use.unknownName? map set.typeNames
  return (firstBy (·.1) [] (found.filterMap id)).map fun (name, context) =>
    .unresolvedType name context

/-- Writes the body of a section. -/
def writeLines (options : Options) (set : DeclarationSet) (callbacks : List Callback) :
    SectionKind → StateM TypeMapper (List String)
  | .types => do
    let structs ← set.structs.mapM (writeItem (fun s => fieldTypes s.fields) StructDecl.item)
    let typedefs ← set.typedefs.mapM (writeItem (fun t => [t.underlyingType]) TypedefDecl.item)
    let classes ← set.classes.mapM (writeItem (fun c => fieldTypes c.fields) ClassDecl.item)
    let items := set.enums.map (fun e => TypeItem.enum e.item) ++ structs.map .record ++
      typedefs.map .typeAlias ++ classes.map .record
    return TypesSection.preamble ++ spaced (items.map (·.lines))
  | .bindings => do
    let bindings ← set.functions.mapM <|
      writeItem BoundFunction.bindingAsks fun map f => f.binding map options
    return "use super::types::*;" :: spaced (bindings.map (·.lines))
  | .memory => return MemorySection.lines set.plainDataTypes
  | .callbacks => do
    let items ← callbacks.mapM <|
      writeItem Callback.spelledTypes fun map c => c.item map options.convention
    return "use super::types::*;" :: spaced (items.map (·.lines))
  | .wrappers => do
    let wrappers ← set.functions.mapM <|
      writeItem BoundFunction.wrapperAsks fun map f => f.callThrough map
    return WrappersSection.preamble ++ spaced (wrappers.map (·.lines)) ++
      spaced ((WrappersSection.owners options set).map (·.lines))
  | .extensions => return ExtensionsSection.lines

def writeSection (options : Options) (set : DeclarationSet) (callbacks : List Callback)
    (kind : SectionKind) : StateM TypeMapper Section := do
  let lines ← writeLines options set callbacks kind
  return {
    fileName := s!"{moduleName options.scope}/{kind.stem}.rs"
    content := unlines ((if kind = .extensions then [] else kind.header options) ++ lines)
    order := kind.order }

def sectionAsks (set : DeclarationSet) (callbacks : List Callback) : SectionKind → List String
  | .types =>
    set.structs.flatMap (fun s => fieldTypes s.fields) ++
      set.typedefs.flatMap (fun t => [t.underlyingType]) ++
      set.classes.flatMap fun c => fieldTypes c.fields
  | .bindings => set.functions.flatMap (·.bindingAsks)
  | .callbacks => callbacks.flatMap (·.spelledTypes)
  | .wrappers => set.functions.flatMap (·.wrapperAsks)
  | .memory | .extensions => []

theorem run_reportUnresolved (set : DeclarationSet) (mapper : TypeMapper) :
    (reportUnresolved set).run mapper =
      pure (unresolvedEvents mapType set,
        mapper.noteAll ((TypeUse.ofSet set).flatMap fun use => [use.type])) := by
  unfold reportUnresolved unresolvedEvents
  simp only [StateT.run_bind, run_mapM_writeItem (asksFor_typeUse set.typeNames), pure_bind,
    StateT.run_pure, List.filterMap_map, Function.id_comp]

theorem run_writeLines (options : Options) (set : DeclarationSet) (callbacks : List Callback)
    (kind : SectionKind) (mapper : TypeMapper) :
    (writeLines options set callbacks kind).run mapper =
      pure (sectionLines .empty options set callbacks kind,
        mapper.noteAll (sectionAsks set callbacks kind)) := by
  cases kind with
  | types =>
      simp only [writeLines, StateT.run_bind, run_mapM_writeItem asksFor_struct,
        run_mapM_writeItem asksFor_typedef, run_mapM_writeItem asksFor_class, pure_bind,
        StateT.run_pure, sectionLines, sectionAsks, lookup_eq_mapType, TypesSection.lines,
        TypesSection.items, noteAll_append, List.map_map, Function.comp_def]
  | bindings =>
      simp only [writeLines, StateT.run_bind,
        run_mapM_writeItem (BoundFunction.asksFor_binding options), pure_bind, StateT.run_pure,
        sectionLines, sectionAsks, lookup_eq_mapType, BindingsSection.lines, BindingsSection.items]
  | memory => rfl
  | callbacks =>
      simp only [writeLines, StateT.run_bind,
        run_mapM_writeItem (asksFor_callback options.convention), pure_bind, StateT.run_pure,
        sectionLines, sectionAsks, lookup_eq_mapType, CallbacksSection.lines,
        CallbacksSection.items]
  | wrappers =>
      simp only [writeLines, StateT.run_bind, run_mapM_writeItem BoundFunction.asksFor_wrapper,
        pure_bind, StateT.run_pure, sectionLines, sectionAsks, lookup_eq_mapType,
        WrappersSection.lines, WrappersSection.callThroughs]
  | extensions => rfl

theorem run_writeSection (options : Options) (set : DeclarationSet) (callbacks : List Callback)
    (kind : SectionKind) (mapper : TypeMapper) :
    (writeSection options set callbacks kind).run mapper =
      pure (emitSection .empty options set callbacks kind,
        mapper.noteAll (sectionAsks set callbacks kind)) := by
  simp only [writeSection, StateT.run_bind, run_writeLines, pure_bind, StateT.run_pure]
  rfl

/-! ## Runs -/

/-- The report and then all sections in order, with one mapper for all of them. -/
def writeAll (set : DeclarationSet) (options : Options) :
    StateM TypeMapper (List Event × List Section) := do
  let unknown ← reportUnresolved set
  let sections ← SectionKind.all.mapM <|
    writeSection options set (CallbackTable.ofSet set).1.definitions
  return (unknown, sections)

/-- The types that a whole run asks for. -/
def runAsks (set : DeclarationSet) (callbacks : List Callback) : List String :=
  ((TypeUse.ofSet set).flatMap fun use => [use.type]) ++
    SectionKind.all.flatMap (sectionAsks set callbacks)

theorem run_writeAll (set : DeclarationSet) (options : Options) (mapper : TypeMapper) :
    (writeAll set options).run mapper =
      pure ((unresolvedEvents mapType set,
          SectionKind.all.map
            (emitSection .empty options set (CallbackTable.ofSet set).1.definitions)),
        mapper.noteAll (runAsks set (CallbackTable.ofSet set).1.definitions)) := by
  simp only [writeAll, StateT.run_bind, run_reportUnresolved, run_mapM (run_writeSection _ _ _),
    pure_bind, StateT.run_pure, runAsks, noteAll_append]

theorem asks_types_subset (set : DeclarationSet) (callbacks : List Callback) :
    sectionAsks set callbacks .types ⊆ (TypeUse.ofSet set).map (·.type) := by
  intro type asked
  simp only [sectionAsks, fieldTypes, List.mem_append, List.mem_flatMap, List.mem_map,
    List.mem_singleton] at asked
  simp only [TypeUse.ofSet, TypeUse.ofFields, List.map_append, List.map_flatMap, List.map_map,
    Function.comp_def, List.mem_append, List.mem_flatMap, List.mem_map]
  obtain (⟨s, declared, used⟩ | ⟨t, declared, rfl⟩) | ⟨c, declared, used⟩ := asked
  · exact .inl (.inl (.inr ⟨s, declared, used⟩))
  · exact .inr ⟨t, declared, rfl⟩
  · exact .inl (.inr ⟨c, declared, used⟩)

theorem bindingAsks_subset {set : DeclarationSet} {f : BoundFunction} (declared : f ∈ set.functions)
    (callbacks : List Callback) : f.bindingAsks ⊆ consultedTypes set callbacks := by
  have own : f.decl.returnType :: f.decl.parameters.map (·.type) ⊆
      (TypeUse.ofSet set).map (·.type) := by
    intro type used
    simp only [TypeUse.ofSet, List.map_append, List.map_flatMap, List.mem_append, List.mem_flatMap]
    refine .inl (.inl (.inl ⟨f, declared, ?_⟩))
    simpa [TypeUse.ofFunction, Function.comp_def] using used
  have self : (if f.takesSelf then [BoundFunction.selfType] else []) ⊆
      if set.functions.any (·.takesSelf) then [BoundFunction.selfType] else [] := by
    cases takesSelf : f.takesSelf with
    | false => simp
    | true =>
        rw [if_pos (List.any_eq_true.mpr ⟨f, declared, takesSelf⟩), if_pos rfl]
        exact fun _ => id
  intro type asked
  simp only [BoundFunction.bindingAsks, BoundFunction.paramTypes, List.mem_append] at asked
  simp only [consultedTypes, List.mem_append]
  obtain ((taken | param) | used) | result := asked
  · exact .inl (.inr (self taken))
  · exact .inl (.inl (own (List.mem_cons_of_mem _ param)))
  · exact .inl (.inl (own used))
  · obtain rfl := List.mem_singleton.mp result
    exact .inl (.inl (own List.mem_cons_self))

theorem BoundFunction.wrapperAsks_subset (f : BoundFunction) : f.wrapperAsks ⊆ f.bindingAsks := by
  intro type asked
  simp only [wrapperAsks, bindingAsks, List.mem_append] at asked ⊢
  exact asked.imp .inl id

theorem mem_runAsks_iff {set : DeclarationSet} {callbacks : List Callback} {type : String} :
    type ∈ runAsks set callbacks ↔ type ∈ consultedTypes set callbacks := by
  have report : (TypeUse.ofSet set).flatMap (fun use => [use.type]) =
      (TypeUse.ofSet set).map (·.type) := List.flatMap_pure_eq_map ..
  constructor
  · intro asked
    simp only [runAsks, SectionKind.all, List.flatMap_cons, List.flatMap_nil, List.append_nil,
      List.mem_append, report] at asked
    obtain use | types | bindings | memory | callback | wrappers | extension := asked
    · exact List.mem_append_left _ (List.mem_append_left _ use)
    · exact List.mem_append_left _ (List.mem_append_left _ (asks_types_subset set callbacks types))
    · obtain ⟨f, declared, asked⟩ := List.mem_flatMap.mp bindings
      exact bindingAsks_subset declared callbacks asked
    · cases memory
    · exact List.mem_append_right _ callback
    · obtain ⟨f, declared, asked⟩ := List.mem_flatMap.mp wrappers
      exact bindingAsks_subset declared callbacks (f.wrapperAsks_subset asked)
    · cases extension
  · intro consulted
    simp only [consultedTypes, List.mem_append] at consulted
    simp only [runAsks, List.mem_append, report]
    obtain (use | self) | callback := consulted
    · exact .inl use
    · refine .inr (List.mem_flatMap.mpr ⟨.bindings, by decide, ?_⟩)
      split at self
      · rename_i anySelf
        obtain ⟨f, declared, takesSelf⟩ := List.any_eq_true.mp anySelf
        refine List.mem_flatMap.mpr ⟨f, declared, ?_⟩
        simp_all [BoundFunction.bindingAsks, BoundFunction.paramTypes]
      · cases self
    · exact .inr (List.mem_flatMap.mpr ⟨.callbacks, by decide, callback⟩)

/-- What a mapper is used for. -/
inductive Request
  | map (type : String)
  | report (set : DeclarationSet)
  | emit (options : Options) (set : DeclarationSet) (callbacks : List Callback)
      (kind : SectionKind)

namespace Request

def serve : Request → StateM TypeMapper Unit
  | map type => do let _ ← ask type
  | report set => do let _ ← reportUnresolved set
  | emit options set callbacks kind => do let _ ← writeSection options set callbacks kind

def types : Request → List String
  | map type => [type]
  | report set => (TypeUse.ofSet set).flatMap fun use => [use.type]
  | emit _ set callbacks kind => sectionAsks set callbacks kind

theorem run_serve (request : Request) (mapper : TypeMapper) :
    request.serve.run mapper = pure ((), mapper.noteAll request.types) := by
  cases request with
  | map type =>
      simp only [serve, StateT.run_bind, run_ask, pure_bind, StateT.run_pure]
      rfl
  | report set =>
      simp only [serve, StateT.run_bind, run_reportUnresolved, pure_bind, StateT.run_pure, types]
  | emit options set callbacks kind =>
      simp only [serve, StateT.run_bind, run_writeSection, pure_bind, StateT.run_pure, types]

end Request

/-- The mapper after some requests, one after the other. -/
def mapperAfter (history : List Request) : TypeMapper :=
  ((history.mapM Request.serve).run .empty).2

theorem size_mapperAfter (history : List Request) :
    (mapperAfter history).size = (history.flatMap (·.types)).toFinset.card := by
  rw [mapperAfter, run_mapM Request.run_serve]
  exact size_noteAll _

theorem size_writeAll (set : DeclarationSet) (options : Options) :
    ((writeAll set options).run .empty).2.size =
      (empty.noteAll (consultedTypes set (CallbackTable.ofSet set).1.definitions)).size := by
  have same : (runAsks set (CallbackTable.ofSet set).1.definitions).toFinset =
      (consultedTypes set (CallbackTable.ofSet set).1.definitions).toFinset := by
    ext type
    rw [List.mem_toFinset, List.mem_toFinset, mem_runAsks_iff]
  rw [run_writeAll]
  show (empty.noteAll _).size = _
  rw [size_noteAll, size_noteAll, same]

theorem emitSection_empty (mapper : TypeMapper) (options : Options) (set : DeclarationSet)
    (callbacks : List Callback) :
    emitSection .empty options set callbacks = emitSection mapper options set callbacks := by
  funext kind
  have body : sectionLines .empty options set callbacks kind =
      sectionLines mapper options set callbacks kind := by
    cases kind <;> simp only [sectionLines, lookup_eq_mapType]
  simp only [emitSection, body]

theorem sections_writeAll (set : DeclarationSet) (options : Options) :
    ((writeAll set options).run .empty).1.2 = (generateFrom set options).code.sections := by
  rw [run_writeAll]
  exact congrArg SectionKind.all.map (emitSection_empty _ options set _)

/-- A mapper answers every question like `mapType` and counts the types that it was asked for.
Whatever it was used for before, a section comes out as with a new mapper. The generator writes all
sections with one mapper. -/
theorem sections_of_shared_mapper :
    (∀ types : List String,
      ((askAll types).run .empty).1 = types.map mapType ∧
        ((askAll types).run .empty).2.size = types.toFinset.card) ∧
    (∀ history : List Request,
      (∀ type, ((mapperAfter history).map type).1 = mapType type) ∧
        (mapperAfter history).size = (history.flatMap (·.types)).toFinset.card ∧
        ∀ options set callbacks kind,
          ((writeSection options set callbacks kind).run (mapperAfter history)).1 =
              ((writeSection options set callbacks kind).run .empty).1 ∧
            ((writeSection options set callbacks kind).run .empty).1 =
              emitSection (mapperAfter history) options set callbacks kind) ∧
    ∀ set options,
      ((writeAll set options).run .empty).1.2 = (generateFrom set options).code.sections ∧
        ∃ totals, .generated options.scope totals ∈ (generateFrom set options).events ∧
          totals.mappedTypes = ((writeAll set options).run .empty).2.size := by
  refine ⟨fun types => ?_, fun history => ⟨fun type => ?_, size_mapperAfter history, ?_⟩,
    fun set options => ⟨sections_writeAll set options, ?_⟩⟩
  · rw [run_askAll]
    exact ⟨rfl, size_noteAll types⟩
  · exact congrFun (mapperAfter history).lookup_eq_mapType type
  · intro options set callbacks kind
    rw [run_writeSection, run_writeSection]
    exact ⟨rfl, congrFun (emitSection_empty (mapperAfter history) options set callbacks) kind⟩
  · exact ⟨_, List.mem_append_right _ (List.mem_singleton_self _),
      (size_writeAll set options).symm⟩

end ForeignBindings
