import ForeignBindings.Proofs.TypeNames

/-!
# Reports of types that nothing declares

The report names every type that is passed through and that no declaration has as its name, once and
at the first place that uses it. It compares the identifier that is passed through with the names as
they were written, so a type whose name is escaped is reported although it is emitted
(`ReportsUnresolved.alarms`). A type that is not emitted is missed only if its name is written like a
raw identifier (`ReportsUnresolved.missed`).
-/

namespace ForeignBindings
open CType Identifier Text

/-! ## Reports among the events -/

/-- The type that an event reports as unresolved, and the place. -/
def Event.unresolved? : Event → Option (String × String)
  | .unresolvedType name context => some (name, context)
  | _ => none

theorem Event.unresolved?_eq_some_iff {event : Event} {name context : String} :
    event.unresolved? = some (name, context) ↔ event = .unresolvedType name context := by
  cases event <;> simp [unresolved?]

theorem mem_unresolved_iff {events : List Event} {name context : String} :
    (name, context) ∈ events.filterMap (·.unresolved?) ↔ .unresolvedType name context ∈ events := by
  simp only [List.mem_filterMap, Event.unresolved?_eq_some_iff, exists_eq_right]

theorem unresolved_duplicateEvents (set : DeclarationSet) :
    set.duplicateEvents.filterMap (·.unresolved?) = [] := by
  simp [DeclarationSet.duplicateEvents, Event.unresolved?]

theorem unresolved_emissionEvents (mapper : TypeMapper) (options : Options) (set : DeclarationSet)
    (callbacks : List Callback) :
    (emissionEvents mapper options set callbacks).filterMap (·.unresolved?) = [] := by
  have helper (entry : String × Bool) : (if entry.2 then Event.emittedHelpers entry.1
      else .duplicateHelper entry.1 (snakeCase entry.1)).unresolved? = none := by
    split <;> rfl
  rw [List.filterMap_eq_nil_iff]
  simp only [emissionEvents, TypesSection.events, EnumDecl.events, BindingsSection.events,
    MemorySection.events, CallbacksSection.events, WrappersSection.events, List.forall_mem_append,
    List.forall_mem_flatMap, List.forall_mem_map, List.forall_mem_singleton, helper]
  simp only [Event.unresolved?, implies_true, and_self]

/-! ## Where types are used -/

/-- A type is used in a set, at the place that `context` says in words. -/
inductive UsesType (set : DeclarationSet) (type : String) : String → Prop
  | result {f : BoundFunction} : f ∈ set.functions → f.decl.returnType = type →
      UsesType set type s!"return type of `{f.symbol}`"
  | parameter {f : BoundFunction} {p : Parameter} : f ∈ set.functions → p ∈ f.decl.parameters →
      p.type = type → UsesType set type s!"param `{p.name}` of `{f.symbol}`"
  | structField {s : StructDecl} {field : Field} : s ∈ set.structs → field ∈ s.fields →
      field.type = type → UsesType set type s!"field `{field.name}` of `{s.name}`"
  | classField {c : ClassDecl} {field : Field} : c ∈ set.classes → field ∈ c.fields →
      field.type = type → UsesType set type s!"field `{field.name}` of `{c.name}`"
  | typedef {t : TypedefDecl} : t ∈ set.typedefs → t.underlyingType = type →
      UsesType set type s!"typedef `{t.name}`"

theorem mem_typeUses_iff {set : DeclarationSet} {type context : String} :
    ⟨type, context⟩ ∈ TypeUse.ofSet set ↔ UsesType set type context := by
  simp only [TypeUse.ofSet, TypeUse.ofFunction, TypeUse.ofFields, List.mem_append, List.mem_flatMap,
    List.mem_cons, List.mem_map, TypeUse.mk.injEq]
  constructor
  · rintro (((⟨f, inFunctions, ⟨rfl, rfl⟩ | ⟨p, inParams, rfl, rfl⟩⟩ |
      ⟨s, inStructs, field, inFields, rfl, rfl⟩) | ⟨c, inClasses, field, inFields, rfl, rfl⟩) |
      ⟨t, inTypedefs, rfl, rfl⟩)
    · exact .result inFunctions rfl
    · exact .parameter inFunctions inParams rfl
    · exact .structField inStructs inFields rfl
    · exact .classField inClasses inFields rfl
    · exact .typedef inTypedefs rfl
  · intro used
    cases used with
    | result inFunctions same =>
        exact .inl (.inl (.inl ⟨_, inFunctions, .inl ⟨same.symm, rfl⟩⟩))
    | parameter inFunctions inParams same =>
        exact .inl (.inl (.inl ⟨_, inFunctions, .inr ⟨_, inParams, same, rfl⟩⟩))
    | structField inStructs inFields same =>
        exact .inl (.inl (.inr ⟨_, inStructs, _, inFields, same, rfl⟩))
    | classField inClasses inFields same =>
        exact .inl (.inr ⟨_, inClasses, _, inFields, same, rfl⟩)
    | typedef inTypedefs same => exact .inr ⟨_, inTypedefs, same, rfl⟩

/-- The name that a use passes through, with the place. -/
def TypeUse.passed? (use : TypeUse) : Option (String × String) :=
  (mapType use.type).passthroughName.map (·, use.context)

namespace DeclarationSet

/-- The names that the types of a set pass through, in the order in which they are used: functions,
structs, classes, typedefs. -/
def passedNames (set : DeclarationSet) : List (String × String) :=
  (TypeUse.ofSet set).filterMap (·.passed?)

/-- Some type of a set passes a name through. -/
def PassesThrough (set : DeclarationSet) (name : String) : Prop :=
  ∃ type context, UsesType set type context ∧ (mapType type).passthroughName = some name

/-- The identifiers under which the types of a set are emitted. -/
def typeIdents (set : DeclarationSet) : List String := (TypesSection.items mapType set).map (·.name)

variable {set : DeclarationSet} {name context : String}

theorem mem_passedNames_iff : (name, context) ∈ set.passedNames ↔
    ∃ type, UsesType set type context ∧ (mapType type).passthroughName = some name := by
  simp only [passedNames, List.mem_filterMap, TypeUse.passed?, Option.map_eq_some_iff,
    Prod.mk.injEq]
  constructor
  · rintro ⟨⟨type, place⟩, used, found, passed, rfl, rfl⟩
    exact ⟨type, mem_typeUses_iff.mp used, passed⟩
  · rintro ⟨type, used, passed⟩
    exact ⟨⟨type, context⟩, mem_typeUses_iff.mpr used, name, passed, rfl, rfl⟩

theorem passesThrough_iff :
    set.PassesThrough name ↔ ∃ context, (name, context) ∈ set.passedNames := by
  simp only [PassesThrough, mem_passedNames_iff]
  exact exists_comm

end DeclarationSet

/-! ## What is reported -/

theorem filterMap_unknownName? (known : List String) (uses : List TypeUse) :
    uses.filterMap (·.unknownName? mapType known) =
      (uses.filterMap (·.passed?)).filter fun passed => decide (passed.1 ∉ known) := by
  induction uses with
  | nil => rfl
  | cons use rest ih =>
      rw [List.filterMap_cons, List.filterMap_cons, TypeUse.unknownName?, TypeUse.passed?]
      cases (mapType use.type).passthroughName with
      | none => exact ih
      | some name =>
          by_cases declared : name ∈ known
          · simp [declared, ih]
          · simp [declared, ih]

theorem unresolved_generateFrom (set : DeclarationSet) (options : Options) :
    (generateFrom set options).events.filterMap (·.unresolved?) =
      firstBy (·.1) [] (set.passedNames.filter fun passed => decide (passed.1 ∉ set.typeNames)) := by
  obtain ⟨mapper, events⟩ := filterMap_generateFrom (·.unresolved?)
    (fun _ _ => rfl) (fun _ _ _ => rfl) (fun _ _ => rfl) (fun _ => rfl) (fun _ _ => rfl) set options
  rw [events, unresolved_emissionEvents, List.append_nil, unresolvedEvents,
    filterMap_unknownName?, List.filterMap_map]
  simp [Event.unresolved?, DeclarationSet.passedNames, Function.comp_def]

theorem unresolved_generate {tree : List Declaration} {options : Options} {generation : Generation}
    (h : generate tree options = .ok generation) :
    ∃ set, DeclarationSet.ofTree tree = .ok set ∧ generation.events.filterMap (·.unresolved?) =
      firstBy (·.1) [] (set.deduplicated.passedNames.filter
        fun passed => decide (passed.1 ∉ set.deduplicated.typeNames)) := by
  obtain ⟨set, flat, -, events⟩ := eq_of_generate h
  refine ⟨set, flat, ?_⟩
  rw [events, List.filterMap_append, unresolved_duplicateEvents, unresolved_generateFrom,
    List.nil_append]

theorem unresolvedType_mem_iff {set : DeclarationSet} {events : List Event}
    (unresolved : events.filterMap (·.unresolved?) =
      firstBy (·.1) [] (set.passedNames.filter fun passed => decide (passed.1 ∉ set.typeNames)))
    (name context : String) : .unresolvedType name context ∈ events ↔
      IsFirst (·.1) set.passedNames (name, context) ∧ name ∉ set.typeNames := by
  have undeclared : IsFirst (·.1)
      (set.passedNames.filter fun passed => decide (passed.1 ∉ set.typeNames)) (name, context) ↔
        IsFirst (·.1) set.passedNames (name, context) ∧ decide (name ∉ set.typeNames) = true :=
    isFirst_filter_iff (p := fun name => decide (name ∉ set.typeNames))
  rw [← mem_unresolved_iff, unresolved, mem_firstBy_iff, and_iff_right List.not_mem_nil,
    undeclared, decide_eq_true_eq]

theorem exists_unresolvedType_iff {set : DeclarationSet} {events : List Event}
    (unresolved : events.filterMap (·.unresolved?) =
      firstBy (·.1) [] (set.passedNames.filter fun passed => decide (passed.1 ∉ set.typeNames)))
    (name : String) : (∃ context, .unresolvedType name context ∈ events) ↔
      set.PassesThrough name ∧ name ∉ set.typeNames := by
  simp only [unresolvedType_mem_iff unresolved, exists_and_right]
  refine and_congr_left fun _ => ?_
  rw [DeclarationSet.passesThrough_iff]
  constructor
  · rintro ⟨context, before, after, whole, -⟩
    exact ⟨context, whole ▸ List.mem_append_right before List.mem_cons_self⟩
  · rintro ⟨context, member⟩
    have exists_first : ∃ first, IsFirst (·.1) set.passedNames first ∧ first.1 = name :=
      exists_isFirst member
    obtain ⟨⟨other, place⟩, first, rfl⟩ := exists_first
    exact ⟨place, first⟩

/-! ## Identifiers of identifiers -/

namespace Identifier

/-- An identifier is its own identifier, unless it is marked as raw. -/
theorem ident_ident {raw : String} (nonblank : spelling raw ≠ []) (fallback fallback' : String) :
    ident (ident raw fallback) fallback' = ident raw fallback ∨
      ∃ word ∈ keywords, ident raw fallback = "r#" ++ word := by
  have word := isWord_guardDigit raw
  have chars : guardDigit (spelling raw) ≠ [] := guardDigit_ne_nil nonblank
  rw [ident_of_spelling nonblank]
  generalize guarded : String.ofList (guardDigit (spelling raw)) = name at word
  have letters : name.toList = guardDigit (spelling raw) := by rw [← guarded, String.toList_ofList]
  by_cases reserved : name ∈ reservedWords
  · have escaped : ∀ word ∈ reservedWords, spelling (guardKeyword word) ≠ [] ∧
        guardKeyword (String.ofList (guardDigit (spelling (guardKeyword word)))) =
          guardKeyword word := by decide
    rw [ident_of_spelling (escaped name reserved).1]
    exact .inl (escaped name reserved).2
  · by_cases keyword : name ∈ keywords
    · rw [guardKeyword, if_neg reserved, if_pos keyword]
      exact .inr ⟨name, keyword, rfl⟩
    · have same : spelling name = name.toList := spelling_of_isWord word
      have plain : guardDigit name.toList = name.toList := by
        rw [guardDigit, letters, startsWithDigit_guardDigit]
        exact if_neg Bool.false_ne_true
      rw [guardKeyword_eq_self reserved keyword,
        ident_of_spelling (by rw [same, letters]; exact chars), same, plain, String.ofList_toList,
        guardKeyword_eq_self reserved keyword]
      exact .inl rfl

end Identifier

/-! ## Names that are passed through -/

namespace TypeMapping

theorem passthroughName_withSpelling (m : TypeMapping) (spelling : String) :
    (m.withSpelling spelling).passthroughName = m.passthroughName := by
  cases m with
  | plain => rfl
  | array => rw [withSpelling, passthroughName, passthroughName]

theorem passthroughName_plain {spelling name : String} {isConst : Bool} {form : Form} :
    (plain spelling isConst form).passthroughName = some name ↔ form = .named name ∧ name ≠ "()" := by
  cases form with
  | named other =>
      by_cases unit : other = "()"
      · simp [passthroughName, isVoid, targetName, Form.targetName, unit, eq_comm]
      · simp [passthroughName, isPrimitive, Form.isPrimitive, marshalHint, Form.marshalHint, isVoid,
          targetName, Form.targetName, unit]
        rintro rfl
        exact unit
  | scalar => simp [passthroughName, isPrimitive, Form.isPrimitive]
  | handle => simp [passthroughName, marshalHint, Form.marshalHint]
  | characters => simp [passthroughName, marshalHint, Form.marshalHint]
  | pointer => simp [passthroughName, isPrimitive, Form.isPrimitive]

/-- A name that is passed through is the identifier of a name that is not blank. -/
theorem exists_base_ofShape {spelling name : String} {shape : Shape}
    (passed : (ofShape spelling shape).passthroughName = some name) :
    ∃ base, Identifier.spelling base ≠ [] ∧ name = ident base "()" := by
  revert passed
  unfold ofShape
  repeat' split
  all_goals
    rw [passthroughName_plain]
    rintro ⟨form, notUnit⟩
    cases form
  -- What is left is the type that no table knows.
  exact ⟨shape.base, fun blank => notUnit (ident_of_blank blank "()"), rfl⟩

theorem exists_base_mapType {type name : String}
    (passed : (mapType type).passthroughName = some name) :
    ∃ base, Identifier.spelling base ≠ [] ∧ name = ident base "()" := by
  revert passed
  refine mapType_induction (P := fun m => m.passthroughName = some name →
    ∃ base, Identifier.spelling base ≠ [] ∧ name = ident base "()") type ?_ ?_ ?_ ?_
  · exact fun m spelling base => by rwa [passthroughName_withSpelling]
  · intro spelling passed
    rw [passthroughName_plain] at passed
    cases passed.1
  · exact fun _ _ => exists_base_ofShape
  · intro spelling length element base passed
    rw [passthroughName] at passed
    exact base passed

end TypeMapping

namespace DeclarationSet

theorem typeIdents_eq (set : DeclarationSet) :
    set.typeIdents = set.enums.map (fun e => ident e.name "UnnamedEnum") ++
      set.structs.map (fun s => ident s.name "Unnamed") ++
      set.typedefs.map (fun t => ident t.name "Unnamed") ++
      set.classes.map fun c => ident c.name "Unnamed" := by
  simp only [typeIdents, TypesSection.items, List.map_append, List.map_map, Function.comp_def,
    TypeItem.name, EnumDecl.item, StructDecl.item, TypedefDecl.item, ClassDecl.item]

theorem ident_mem_typeIdents {set : DeclarationSet} {name : String}
    (declared : name ∈ set.typeNames) : ∃ fallback, ident name fallback ∈ set.typeIdents := by
  simp only [typeIdents_eq, List.mem_append]
  simp only [typeNames, List.mem_append, List.mem_map] at declared
  rcases declared with ((⟨s, member, rfl⟩ | ⟨e, member, rfl⟩) | ⟨t, member, rfl⟩) | ⟨c, member, rfl⟩
  · exact ⟨"Unnamed", .inl (.inl (.inr (List.mem_map_of_mem member)))⟩
  · exact ⟨"UnnamedEnum", .inl (.inl (.inl (List.mem_map_of_mem member)))⟩
  · exact ⟨"Unnamed", .inl (.inr (List.mem_map_of_mem member))⟩
  · exact ⟨"Unnamed", .inr (List.mem_map_of_mem member)⟩

theorem exists_declared_of_mem_typeIdents {set : DeclarationSet} {name : String}
    (emitted : name ∈ set.typeIdents) :
    ∃ declared ∈ set.typeNames, ∃ fallback, ident declared fallback = name := by
  simp only [typeIdents_eq, List.mem_append, List.mem_map] at emitted
  simp only [typeNames, List.mem_append]
  rcases emitted with ((⟨e, member, rfl⟩ | ⟨s, member, rfl⟩) | ⟨t, member, rfl⟩) | ⟨c, member, rfl⟩
  · exact ⟨e.name, .inl (.inl (.inr (List.mem_map_of_mem member))), "UnnamedEnum", rfl⟩
  · exact ⟨s.name, .inl (.inl (.inl (List.mem_map_of_mem member))), "Unnamed", rfl⟩
  · exact ⟨t.name, .inl (.inr (List.mem_map_of_mem member)), "Unnamed", rfl⟩
  · exact ⟨c.name, .inr (List.mem_map_of_mem member), "Unnamed", rfl⟩

/-- A type that is passed through by the name of a declaration is emitted under it, unless the name
is written like a raw identifier. -/
theorem raw_of_not_mem_typeIdents {set : DeclarationSet} {type name : String}
    (passed : (mapType type).passthroughName = some name) (declared : name ∈ set.typeNames)
    (unemitted : name ∉ set.typeIdents) : ∃ word ∈ keywords, name = "r#" ++ word := by
  obtain ⟨base, nonblank, rfl⟩ := TypeMapping.exists_base_mapType passed
  obtain ⟨fallback, emitted⟩ := ident_mem_typeIdents declared
  rcases ident_ident nonblank "()" fallback with fixed | raw
  · rw [fixed] at emitted
    exact absurd emitted unemitted
  · exact raw

end DeclarationSet

/-! ## The statement -/

/-- The warnings about unresolved types among the events of a generation. -/
structure ReportsUnresolved (set : DeclarationSet) (events : List Event) : Prop where
  once : ((events.filterMap (·.unresolved?)).map (·.1)).Nodup
  uses : ∀ name context, (name, context) ∈ set.passedNames ↔
    ∃ type, UsesType set type context ∧ (mapType type).passthroughName = some name
  reported : ∀ name context, .unresolvedType name context ∈ events ↔
    IsFirst (·.1) set.passedNames (name, context) ∧ name ∉ set.typeNames
  exact : ∀ name, ((∃ context, .unresolvedType name context ∈ events) ↔
      set.PassesThrough name ∧ name ∉ set.typeIdents) ↔
    (set.PassesThrough name → (name ∈ set.typeNames ↔ name ∈ set.typeIdents))
  alarms : ∀ name context, .unresolvedType name context ∈ events → name ∈ set.typeIdents →
    ∃ declared ∈ set.typeNames, declared ≠ name ∧ ∃ fallback, ident declared fallback = name
  missed : ∀ name, set.PassesThrough name → name ∈ set.typeNames → name ∉ set.typeIdents →
    ∃ word ∈ keywords, name = "r#" ++ word

theorem generate_reportsUnresolved {tree : List Declaration} {options : Options}
    {generation : Generation} (h : generate tree options = .ok generation) :
    ∃ set, DeclarationSet.ofTree tree = .ok set ∧
      ReportsUnresolved set.deduplicated generation.events := by
  obtain ⟨set, flat, unresolved⟩ := unresolved_generate h
  refine ⟨set, flat, ?_⟩
  exact
    { once := unresolved ▸ keys_nodup_firstBy _ _ _
      uses := fun _ _ => DeclarationSet.mem_passedNames_iff
      reported := unresolvedType_mem_iff unresolved
      exact := fun name => by
        rw [exists_unresolvedType_iff unresolved, and_congr_right_iff, not_iff_not]
      alarms := fun name context warned emitted => by
        obtain ⟨declared, member, escaped⟩ :=
          DeclarationSet.exists_declared_of_mem_typeIdents emitted
        have unknown := ((unresolvedType_mem_iff unresolved name context).mp warned).2
        exact ⟨declared, member, fun same => unknown (same ▸ member), escaped⟩
      missed := by
        rintro name ⟨type, context, -, passed⟩
        exact DeclarationSet.raw_of_not_mem_typeIdents passed }

/-- A name that is used twice, one that is declared and one that is escaped. -/
theorem generate_reportsUnresolved_token :
    let token : StructDecl := ⟨"Token", [⟨"next", "Missing"⟩, ⟨"kind", "type"⟩], none⟩
    let function (result : String) : Declaration :=
      .function ⟨"get_" ++ result, result, [], none, false, false⟩
    let tree : List Declaration := [.struct token, function "Missing", function "Token"]
    let options : Options := ⟨"Ui", "ui", .cdecl⟩
    ∃ generation, generate tree options = .ok generation ∧
      ∃ set, DeclarationSet.ofTree tree = .ok set ∧
        ReportsUnresolved set.deduplicated generation.events :=
  ⟨_, rfl, generate_reportsUnresolved rfl⟩

/-- A struct whose name is a keyword is emitted, and its use is reported as undeclared. -/
theorem generate_type_reportsDeclared :
    let tree : List Declaration := [.struct ⟨"type", [], none⟩,
      .function ⟨"get", "struct type", [], none, false, false⟩]
    let options : Options := ⟨"NS", "lib", .cdecl⟩
    ∃ set generation, DeclarationSet.ofTree tree = .ok set ∧
      generate tree options = .ok generation ∧
      set.deduplicated.typeIdents = ["r#type"] ∧
      .unresolvedType "r#type" "return type of `get`" ∈ generation.events := by
  intro tree options
  have generated : ∃ generation, generate tree options = .ok generation := ⟨_, rfl⟩
  obtain ⟨generation, generated⟩ := generated
  obtain ⟨set, flat, unresolved⟩ := unresolved_generate generated
  refine ⟨set, generation, flat, generated, ?_⟩
  rw [← mem_unresolved_iff, unresolved]
  cases flat
  decide

end ForeignBindings
