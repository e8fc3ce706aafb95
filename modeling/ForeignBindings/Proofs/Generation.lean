import ForeignBindings.Proofs.CallbackTable

/-!
# Reading the sections off a generation

`eq_of_generate` says which set the sections of a tree are emitted from, and `content_generateFrom`
what each section holds. Everything that is emitted maps its types by `mapType`, since a mapper never
answers anything else.
-/

namespace ForeignBindings

/-- The lines of a section, its header included. -/
def sectionText (options : Options) (set : DeclarationSet) (kind : SectionKind) : List String :=
  (if kind = .extensions then [] else kind.header options) ++
    match kind with
    | .types => TypesSection.lines mapType set
    | .bindings => BindingsSection.lines mapType options set
    | .memory => MemorySection.lines set.plainDataTypes
    | .callbacks =>
      CallbacksSection.lines mapType options.convention (CallbackTable.ofSet set).1.definitions
    | .wrappers => WrappersSection.lines mapType options set
    | .extensions => ExtensionsSection.lines

/-- The content of the section of a kind. -/
def GeneratedCode.content? (code : GeneratedCode) (kind : SectionKind) : Option String :=
  (code.sections.find? (·.order = kind.order)).map (·.content)

theorem content_generateFrom (set : DeclarationSet) (options : Options) (kind : SectionKind) :
    (generateFrom set options).code.content? kind =
      some (Text.unlines (sectionText options set kind)) := by
  cases kind <;> simp [GeneratedCode.content?, generateFrom, SectionKind.all, emitSection,
    SectionKind.order, sectionLines, sectionText]

theorem TypesSection.typeAlias_mem_items (map : String → TypeMapping) {set : DeclarationSet}
    {t : TypedefDecl} (member : t ∈ set.typedefs) : .typeAlias (t.item map) ∈ items map set :=
  List.mem_append_left _ (List.mem_append_right _ (List.mem_map_of_mem member))

/-- What is read off the events of a generation, when it is none of the events of looking for
callbacks and none of those around the run. -/
theorem filterMap_generateFrom {β : Type} (read : Event → Option β)
    (unmatched : ∀ type context, read (.unmatchedCallback type context) = none)
    (collision : ∀ name kept dropped, read (.callbackCollision name kept dropped) = none)
    (synthesized : ∀ type context, read (.synthesizedCallback type context) = none)
    (empty : ∀ scope, read (.emptyTree scope) = none)
    (generated : ∀ scope totals, read (.generated scope totals) = none)
    (set : DeclarationSet) (options : Options) :
    ∃ mapper, (generateFrom set options).events.filterMap read =
      (unresolvedEvents mapType set).filterMap read ++
        (emissionEvents mapper options set (CallbackTable.ofSet set).1.definitions).filterMap
          read := by
  have noTree : (if set.isEmpty then [Event.emptyTree options.scope] else []).filterMap read =
      [] := by
    split
    · rw [List.filterMap_cons_none (empty _), List.filterMap_nil]
    · rfl
  have visits : (CallbackTable.ofSet set).2.filterMap read = [] :=
    CallbackTable.filterMap_visitAll unmatched collision synthesized _ _
  let callbacks := (CallbackTable.ofSet set).1.definitions
  refine ⟨TypeMapper.empty.noteAll (consultedTypes set callbacks), ?_⟩
  rw [generateFrom]
  dsimp only
  simp only [List.filterMap_append, noTree, visits, TypeMapper.lookup_eq_mapType, List.nil_append]
  rw [List.filterMap_cons_none (generated _ _), List.filterMap_nil, List.append_nil]

theorem eq_of_generate {tree : List Declaration} {options : Options} {generation : Generation}
    (h : generate tree options = .ok generation) :
    ∃ set, DeclarationSet.ofTree tree = .ok set ∧
      generation.code = (generateFrom set.deduplicated options).code ∧
      generation.events = set.duplicateEvents ++ (generateFrom set.deduplicated options).events := by
  unfold generate at h
  cases flat : DeclarationSet.ofTree tree with
  | error e => simp [flat, bind, Except.bind] at h
  | ok set =>
      simp only [flat, bind, Except.bind, pure, Except.pure, Except.ok.injEq] at h
      exact ⟨set, rfl, h ▸ rfl, h ▸ rfl⟩

theorem generate_ok {tree : List Declaration} {options : Options} {generation : Generation}
    (h : generate tree options = .ok generation) :
    ∃ set, DeclarationSet.ofTree tree = .ok set ∧
      generation.code = (generateFrom set.deduplicated options).code := by
  obtain ⟨set, flat, code, -⟩ := eq_of_generate h
  exact ⟨set, flat, code⟩

theorem content_generate {tree : List Declaration} {options : Options} {generation : Generation}
    (h : generate tree options = .ok generation) :
    ∃ set, DeclarationSet.ofTree tree = .ok set ∧ ∀ kind,
      generation.code.content? kind =
        some (Text.unlines (sectionText options set.deduplicated kind)) := by
  obtain ⟨set, flat, code⟩ := generate_ok h
  exact ⟨set, flat, fun kind => code ▸ content_generateFrom set.deduplicated options kind⟩

end ForeignBindings
