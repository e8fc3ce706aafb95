import ForeignBindings.Generate
import ForeignBindings.Proofs.FirstOccurrence

/-!
# Callbacks are the first of their names

The sites of a declaration set are visited one after the other, and the callback at each of them is
inserted into a table that grows. A table grows by what `firstBy` keeps of the inserted callbacks
(`definitions_insertAll`), and so the table of all visits is what `firstBy` keeps of all callbacks
that the set spells (`definitions_ofSet`). The sites are all places where a type stands
(`exists_site_iff`).
-/

namespace ForeignBindings
open CType Text

/-! ## Visiting sites -/

namespace CallbackTable

/-- The names that a table has taken. -/
def names (table : CallbackTable) : List String := table.definitions.map (·.name)

/-- What is read off the events of the visits, when it is none of the three events that a visit
reports. -/
theorem filterMap_visitAll {β : Type} {read : Event → Option β}
    (unmatched : ∀ type context, read (.unmatchedCallback type context) = none)
    (collision : ∀ name kept dropped, read (.callbackCollision name kept dropped) = none)
    (synthesized : ∀ type context, read (.synthesizedCallback type context) = none)
    (table : CallbackTable) (sites : List Site) :
    (table.visitAll sites).2.filterMap read = [] := by
  have visit (table : CallbackTable) (site : Site) : (table.visit site).2.filterMap read = [] := by
    unfold CallbackTable.visit
    cases site.callback? with
    | none =>
        dsimp only
        split
        · rw [List.filterMap_cons_none (unmatched _ _), List.filterMap_nil]
        · rfl
    | some callback =>
        dsimp only
        cases table.offer callback <;> simp [Offer.warnings, collision, synthesized]
  induction sites generalizing table with
  | nil => rfl
  | cons site rest ih =>
      rw [visitAll, List.filterMap_append, visit, ih, List.append_nil]

theorem definitions_insert (table : CallbackTable) (callback : Callback) :
    (table.insert callback).definitions =
      table.definitions ++ firstBy (·.name) table.names [callback] := by
  rw [firstBy_cons]
  unfold insert
  split
  · rename_i place found
    have taken : callback.name ∈ table.names := by
      by_contra absent
      rw [index_eq_none_iff.mpr absent] at found
      cases found
    rw [if_pos (List.contains_iff_mem.mpr taken)]
    exact (List.append_nil _).symm
  · rename_i absent
    have fresh : callback.name ∉ table.names := index_eq_none_iff.mp absent
    rw [if_neg fun taken => fresh (List.contains_iff_mem.mp taken)]
    rfl

theorem names_insert (table : CallbackTable) (callback : Callback) :
    (table.insert callback).names =
      table.names ++ (firstBy (·.name) table.names [callback]).map (·.name) := by
  rw [names, definitions_insert, List.map_append]
  rfl

theorem definitions_insertAll (table : CallbackTable) (callbacks : List Callback) :
    (table.insertAll callbacks).definitions =
      table.definitions ++ firstBy (·.name) table.names callbacks := by
  induction callbacks generalizing table with
  | nil => exact (List.append_nil _).symm
  | cons callback callbacks ih =>
      rw [insertAll, List.foldl_cons, ← insertAll, ih, definitions_insert, names_insert,
        List.append_assoc, ← firstBy_append_kept, List.singleton_append]

theorem visitAll_fst (table : CallbackTable) (sites : List Site) :
    (table.visitAll sites).1 = table.insertAll (sites.filterMap (·.callback?)) := by
  induction sites generalizing table with
  | nil => rfl
  | cons site rest ih =>
      rw [visitAll, List.filterMap_cons]
      dsimp only
      rw [ih, visit]
      cases site.callback? <;> rfl

end CallbackTable

/-! ## The callbacks that a set spells -/

/-- The callback that a type defines, if it is a function pointer. -/
def spelledCallback? (type name context : String) : Option Callback :=
  (FunctionPointer.parse? type).map fun signature =>
    ⟨name, signature,
      some s!"Native callback `{String.ofList (trim type.toList)}` used by {context}."⟩

/-- The callbacks that the function-pointer types of a set spell: for every function its return type
and then its parameters, then the fields of structs, the fields of classes and the typedefs. -/
def DeclarationSet.spelledCallbacks (set : DeclarationSet) : List Callback :=
  List.filterMap id <|
    (set.functions.flatMap fun f =>
      spelledCallback? f.decl.returnType (callbackName f.symbol "")
          s!"the return type of `{f.symbol}`" ::
        f.decl.parameters.mapIdx fun i p =>
          let member := if p.name = "" then s!"arg{i}" else p.name
          spelledCallback? p.type (callbackName f.symbol member)
            s!"parameter `{member}` of `{f.symbol}`") ++
    (set.structs.flatMap fun s => s.fields.map fun field =>
      spelledCallback? field.type (callbackName s.name field.name)
        s!"field `{field.name}` of {Kind.struct.word} `{s.name}`") ++
    (set.classes.flatMap fun c => c.fields.map fun field =>
      spelledCallback? field.type (callbackName c.name field.name)
        s!"field `{field.name}` of {Kind.classType.word} `{c.name}`") ++
    set.typedefs.map fun t =>
      spelledCallback? t.underlyingType (callbackName t.name "") s!"typedef `{t.name}`"

theorem Site.callback?_mk (type name context : String) :
    (⟨type, name, context⟩ : Site).callback? = spelledCallback? type name context := rfl

/-- The sites of a set are where its callbacks are spelled. -/
theorem DeclarationSet.spelledCallbacks_eq (set : DeclarationSet) :
    set.spelledCallbacks = (Site.ofSet set).filterMap (·.callback?) := by
  have each (sites : List Site) :
      sites.filterMap (·.callback?) = (sites.map (·.callback?)).filterMap id := by
    rw [List.filterMap_map]
    rfl
  rw [each, spelledCallbacks]
  simp only [Site.ofSet, Site.ofFunction, Site.ofFields, Site.ofTypedef, Site.memberName,
    Site.callback?_mk, List.map_append, List.map_flatMap, List.map_cons, List.map_map,
    List.mapIdx_eq_zipIdx_map, Function.comp_def]

theorem CallbackTable.definitions_ofSet (set : DeclarationSet) :
    (ofSet set).1.definitions = firstBy (·.name) [] set.spelledCallbacks := by
  rw [ofSet, visitAll_fst, definitions_insertAll, set.spelledCallbacks_eq]
  exact List.nil_append _

/-! ## Where types stand -/

/-- A type stands in a set where a function pointer defines the callback `name`. -/
inductive StandsAt (set : DeclarationSet) (type : String) : String → Prop
  | result {f : BoundFunction} : f ∈ set.functions → f.decl.returnType = type →
      StandsAt set type (callbackName f.symbol "")
  | parameter {f : BoundFunction} {p : Parameter} {i : Nat} : f ∈ set.functions →
      f.decl.parameters[i]? = some p → p.type = type →
      StandsAt set type (callbackName f.symbol (if p.name = "" then s!"arg{i}" else p.name))
  | structField {s : StructDecl} {field : Field} : s ∈ set.structs → field ∈ s.fields →
      field.type = type → StandsAt set type (callbackName s.name field.name)
  | classField {c : ClassDecl} {field : Field} : c ∈ set.classes → field ∈ c.fields →
      field.type = type → StandsAt set type (callbackName c.name field.name)
  | typedef {t : TypedefDecl} : t ∈ set.typedefs → t.underlyingType = type →
      StandsAt set type (callbackName t.name "")

theorem exists_site_iff {set : DeclarationSet} {type name : String} :
    (∃ site ∈ Site.ofSet set, site.type = type ∧ site.callbackName = name) ↔
      StandsAt set type name := by
  simp only [Site.ofSet, List.mem_append, List.mem_flatMap, List.mem_map, Site.ofFunction,
    Site.ofFields, List.mem_cons, List.mem_mapIdx]
  constructor
  · rintro ⟨site, ((⟨f, inFunctions, rfl | ⟨i, bound, rfl⟩⟩ | ⟨s, inStructs, field, inFields, rfl⟩) |
      ⟨c, inClasses, field, inFields, rfl⟩) | ⟨t, inTypedefs, rfl⟩, rfl, rfl⟩
    · exact .result inFunctions rfl
    · exact .parameter inFunctions (List.getElem?_eq_getElem bound) rfl
    · exact .structField inStructs inFields rfl
    · exact .classField inClasses inFields rfl
    · exact .typedef inTypedefs rfl
  · intro stands
    cases stands with
    | result inFunctions same =>
        exact ⟨_, .inl (.inl (.inl ⟨_, inFunctions, .inl rfl⟩)), same, rfl⟩
    | parameter inFunctions found same =>
        obtain ⟨bound, rfl⟩ := List.getElem?_eq_some_iff.mp found
        exact ⟨_, .inl (.inl (.inl ⟨_, inFunctions, .inr ⟨_, bound, rfl⟩⟩)), same, rfl⟩
    | structField inStructs inFields same =>
        exact ⟨_, .inl (.inl (.inr ⟨_, inStructs, _, inFields, rfl⟩)), same, rfl⟩
    | classField inClasses inFields same =>
        exact ⟨_, .inl (.inr ⟨_, inClasses, _, inFields, rfl⟩), same, rfl⟩
    | typedef inTypedefs same => exact ⟨_, .inr ⟨_, inTypedefs, rfl⟩, same, rfl⟩

/-- What is spelled at a site has the name of the site and the signature of its type. -/
theorem exists_spelled_iff {set : DeclarationSet} {name : String} {signature : FunctionPointer} :
    (∃ c ∈ set.spelledCallbacks, c.name = name ∧ c.signature = signature) ↔
      ∃ type, StandsAt set type name ∧ FunctionPointer.parse? type = some signature := by
  simp only [DeclarationSet.spelledCallbacks_eq, List.mem_filterMap, Site.callback?,
    Option.map_eq_some_iff]
  constructor
  · rintro ⟨c, ⟨site, member, signature, parsed, rfl⟩, rfl, rfl⟩
    exact ⟨site.type, exists_site_iff.mp ⟨site, member, rfl, rfl⟩, parsed⟩
  · rintro ⟨type, stands, parsed⟩
    obtain ⟨site, member, rfl, rfl⟩ := exists_site_iff.mpr stands
    exact ⟨_, ⟨site, member, signature, parsed, rfl⟩, rfl, rfl⟩

/-! ## The callbacks of a set -/

/-- The callbacks are the first of their names among those that a set spells: every function pointer
has its callback, every callback is spelled by a function pointer that comes first, and no two have
one name. -/
structure FirstCallbacks (set : DeclarationSet) (callbacks : List Callback) : Prop where
  firstWins : callbacks = firstBy (·.name) [] set.spelledCallbacks
  complete : ∀ type name signature, StandsAt set type name →
    FunctionPointer.parse? type = some signature → ∃ c ∈ callbacks, c.name = name
  spelled : ∀ c ∈ callbacks, IsFirst (·.name) set.spelledCallbacks c ∧
    ∃ type, StandsAt set type c.name ∧ FunctionPointer.parse? type = some c.signature
  distinct : (callbacks.map (·.name)).Nodup

theorem firstCallbacks (set : DeclarationSet) :
    FirstCallbacks set (CallbackTable.ofSet set).1.definitions := by
  rw [CallbackTable.definitions_ofSet]
  refine
    { firstWins := rfl
      complete := fun type name signature stands parsed => ?_
      spelled := fun c member => ?_
      distinct := keys_nodup_firstBy _ _ _ }
  · obtain ⟨c, spelled, rfl, -⟩ := exists_spelled_iff.mpr ⟨type, stands, parsed⟩
    have kept : c.name ∈ (firstBy (·.name) [] set.spelledCallbacks).map (·.name) :=
      mem_map_firstBy.mpr ⟨List.mem_map_of_mem spelled, List.not_mem_nil⟩
    exact List.mem_map.mp kept
  · have spelled : c ∈ set.spelledCallbacks := (firstBy_sublist _ _ _).subset member
    exact ⟨isFirst_of_mem_firstBy member, exists_spelled_iff.mp ⟨c, spelled, rfl, rfl⟩⟩

end ForeignBindings
