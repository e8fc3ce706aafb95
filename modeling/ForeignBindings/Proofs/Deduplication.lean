import ForeignBindings.Declaration.Unique
import ForeignBindings.Proofs.FirstOccurrence

/-!
# The first declaration of a name wins

What is left of a declaration set when every name is declared once. The kinds are looked at one
after the other, and each finds the names of the earlier kinds taken, so the argument is one about
`firstBy` for each kind and one about the names that stand between the kinds.

* `deduplicated_firstWins`: what is kept, what is dropped and reported, that no name is lost or kept
  twice, and that a second pass finds nothing to do.
-/

namespace ForeignBindings.DeclarationSet

/-- The names that the declarations of a set claim as types; a typedef that only repeats a tag claims
none. -/
def declaredNames (set : DeclarationSet) : List String :=
  set.namesBeforeTypedefs ++ set.ownTypedefs.map (·.name)

/-- The symbols of the functions of a set. -/
def symbols (set : DeclarationSet) : List String := set.functions.map (·.symbol)

/-- One warning for each declaration of a set. -/
def duplicateWarnings (dropped : DeclarationSet) : List Event :=
  dropped.structs.map (fun s => Event.duplicateType s.name .struct) ++
    dropped.enums.map (fun e => Event.duplicateType e.name .enum) ++
    dropped.classes.map (fun c => Event.duplicateType c.name .classType) ++
    dropped.typedefs.map (fun t => Event.duplicateType t.name .typedef) ++
    dropped.functions.map fun f => Event.duplicateFunction f.symbol

/-- Of the declarations of a set, `kept` are first with their name among those of their kind, in the
order of the set, and `dropped` are the other ones that claim a name. -/
structure FirstWins (set kept dropped : DeclarationSet) : Prop where
  functions : KeepsFirst (·.symbol) set.functions kept.functions dropped.functions
  structs : KeepsFirst (·.name) set.structs kept.structs dropped.structs
  enums : KeepsFirst (·.name) set.enums kept.enums dropped.enums
  classes : KeepsFirst (·.name) set.classes kept.classes dropped.classes
  typedefs : KeepsFirst (·.name) set.ownTypedefs kept.typedefs dropped.typedefs
  typedefsInOrder : kept.typedefs.Sublist set.typedefs

variable (set : DeclarationSet)

theorem deduplicated_keepsFirst :
    ∃ dropped, set.FirstWins set.deduplicated dropped ∧
      set.duplicateEvents = dropped.duplicateWarnings := by
  let dropped : DeclarationSet :=
    { functions := repeatsBy (·.symbol) [] set.functions
      structs := repeatsBy (·.name) [] set.structs
      enums := repeatsBy (·.name) set.namesBeforeEnums set.enums
      typedefs := repeatsBy (·.name) set.namesBeforeTypedefs set.ownTypedefs
      classes := repeatsBy (·.name) set.namesBeforeClasses set.classes }
  refine ⟨dropped, ?_, rfl⟩
  exact
    { functions := keepsFirst _ _ _
      structs := keepsFirst _ _ _
      enums := keepsFirst _ _ _
      classes := keepsFirst _ _ _
      typedefs := keepsFirst _ _ _
      typedefsInOrder := (firstBy_sublist _ _ _).trans List.filter_sublist }

/-! ## Names across the kinds -/

theorem mem_names_before_kept {name : String} :
    (name ∈ set.deduplicated.namesBeforeEnums ↔ name ∈ set.namesBeforeEnums) ∧
      (name ∈ set.deduplicated.namesBeforeClasses ↔ name ∈ set.namesBeforeClasses) ∧
      (name ∈ set.deduplicated.namesBeforeTypedefs ↔ name ∈ set.namesBeforeTypedefs) := by
  have structs : name ∈ set.deduplicated.namesBeforeEnums ↔ name ∈ set.namesBeforeEnums := by
    simp only [namesBeforeEnums, deduplicated, mem_map_firstBy, List.not_mem_nil, not_false_eq_true,
      and_true]
  have enums : name ∈ set.deduplicated.namesBeforeClasses ↔ name ∈ set.namesBeforeClasses := by
    simp only [namesBeforeClasses, List.mem_append, structs]
    simp only [deduplicated, mem_map_firstBy]
    tauto
  refine ⟨structs, enums, ?_⟩
  simp only [namesBeforeTypedefs, List.mem_append, enums]
  simp only [deduplicated, mem_map_firstBy]
  tauto

theorem ownTypedefs_deduplicated : set.deduplicated.ownTypedefs = set.deduplicated.typedefs := by
  refine List.filter_eq_self.mpr fun t member => ?_
  have own : t ∈ set.ownTypedefs := (firstBy_sublist _ _ _).subset member
  exact (List.mem_filter.mp own).2

theorem declaredNames_deduplicated_perm :
    set.deduplicated.declaredNames.Perm set.deduplicated.typeNames := by
  rw [declaredNames, ownTypedefs_deduplicated]
  simp only [namesBeforeTypedefs, namesBeforeClasses, namesBeforeEnums, typeNames,
    List.append_assoc]
  exact .append_left _ (.append_left _ List.perm_append_comm)

theorem mem_declaredNames_deduplicated {name : String} :
    name ∈ set.deduplicated.declaredNames ↔ name ∈ set.declaredNames := by
  rw [declaredNames, declaredNames, ownTypedefs_deduplicated, List.mem_append, List.mem_append,
    set.mem_names_before_kept.2.2]
  simp only [deduplicated, mem_map_firstBy]
  tauto

theorem nodup_declaredNames_deduplicated : set.deduplicated.declaredNames.Nodup := by
  have enums : set.deduplicated.namesBeforeClasses.Nodup := by
    refine List.Nodup.append (keys_nodup_firstBy _ _ _) (keys_nodup_firstBy _ _ _) ?_
    intro name old new
    exact (mem_map_firstBy.mp new).2 (set.mem_names_before_kept.1.mp old)
  have classes : set.deduplicated.namesBeforeTypedefs.Nodup := by
    refine List.Nodup.append enums (keys_nodup_firstBy _ _ _) ?_
    intro name old new
    exact (mem_map_firstBy.mp new).2 (set.mem_names_before_kept.2.1.mp old)
  rw [declaredNames, ownTypedefs_deduplicated]
  refine List.Nodup.append classes (keys_nodup_firstBy _ _ _) ?_
  intro name old new
  exact (mem_map_firstBy.mp new).2 (set.mem_names_before_kept.2.2.mp old)

theorem count_typeNames_deduplicated (name : String) :
    set.deduplicated.typeNames.count name = if name ∈ set.declaredNames then 1 else 0 := by
  rw [← set.declaredNames_deduplicated_perm.count_eq, set.nodup_declaredNames_deduplicated.count]
  exact if_congr set.mem_declaredNames_deduplicated rfl rfl

theorem nodup_symbols_deduplicated : set.deduplicated.symbols.Nodup := keys_nodup_firstBy _ _ _

theorem mem_symbols_deduplicated {symbol : String} :
    symbol ∈ set.deduplicated.symbols ↔ symbol ∈ set.symbols := by
  simp only [symbols, deduplicated, mem_map_firstBy, List.not_mem_nil, not_false_eq_true, and_true]

theorem count_symbols_deduplicated (symbol : String) :
    set.deduplicated.symbols.count symbol = if symbol ∈ set.symbols then 1 else 0 := by
  rw [set.nodup_symbols_deduplicated.count]
  exact if_congr set.mem_symbols_deduplicated rfl rfl

/-! ## A second pass -/

/-- Every bucket of a deduplicated set passes through the filter of its kind as it is. -/
theorem firstBy_deduplicated :
    firstBy (·.symbol) [] set.deduplicated.functions = set.deduplicated.functions ∧
      firstBy (·.name) [] set.deduplicated.structs = set.deduplicated.structs ∧
      firstBy (·.name) set.deduplicated.namesBeforeEnums set.deduplicated.enums =
        set.deduplicated.enums ∧
      firstBy (·.name) set.deduplicated.namesBeforeClasses set.deduplicated.classes =
        set.deduplicated.classes ∧
      firstBy (·.name) set.deduplicated.namesBeforeTypedefs set.deduplicated.ownTypedefs =
        set.deduplicated.typedefs := by
  refine ⟨?_, ?_, ?_, ?_, ?_⟩
  · exact firstBy_eq_self (keys_nodup_firstBy _ _ _) fun _ _ => List.not_mem_nil
  · exact firstBy_eq_self (keys_nodup_firstBy _ _ _) fun _ _ => List.not_mem_nil
  · refine firstBy_eq_self (keys_nodup_firstBy _ _ _) fun e member old => ?_
    exact keys_firstBy_not_taken _ _ _ e member (set.mem_names_before_kept.1.mp old)
  · refine firstBy_eq_self (keys_nodup_firstBy _ _ _) fun c member old => ?_
    exact keys_firstBy_not_taken _ _ _ c member (set.mem_names_before_kept.2.1.mp old)
  · rw [ownTypedefs_deduplicated]
    refine firstBy_eq_self (keys_nodup_firstBy _ _ _) fun t member old => ?_
    exact keys_firstBy_not_taken _ _ _ t member (set.mem_names_before_kept.2.2.mp old)

theorem deduplicated_deduplicated : set.deduplicated.deduplicated = set.deduplicated := by
  obtain ⟨functions, structs, enums, classes, typedefs⟩ := set.firstBy_deduplicated
  conv_lhs => rw [deduplicated]
  rw [functions, structs, enums, classes, typedefs]

theorem duplicateEvents_deduplicated : set.deduplicated.duplicateEvents = [] := by
  obtain ⟨functions, structs, enums, classes, typedefs⟩ := set.firstBy_deduplicated
  rw [ownTypedefs_deduplicated] at typedefs
  rw [duplicateEvents, ownTypedefs_deduplicated, repeatsBy_eq_nil functions,
    repeatsBy_eq_nil structs, repeatsBy_eq_nil enums, repeatsBy_eq_nil classes,
    repeatsBy_eq_nil typedefs]
  rfl

/-! ## The statement -/

theorem deduplicated_firstWins (set : DeclarationSet) :
    (∃ dropped, set.FirstWins set.deduplicated dropped ∧
      set.duplicateEvents = dropped.duplicateWarnings) ∧
    set.deduplicated.typeNames.Nodup ∧
    set.deduplicated.symbols.Nodup ∧
    (∀ name, set.deduplicated.typeNames.count name = if name ∈ set.declaredNames then 1 else 0) ∧
    (∀ symbol, set.deduplicated.symbols.count symbol = if symbol ∈ set.symbols then 1 else 0) ∧
    set.deduplicated.deduplicated = set.deduplicated ∧
    set.deduplicated.duplicateEvents = [] := by
  refine ⟨set.deduplicated_keepsFirst, ?_, set.nodup_symbols_deduplicated,
    set.count_typeNames_deduplicated, set.count_symbols_deduplicated,
    set.deduplicated_deduplicated, set.duplicateEvents_deduplicated⟩
  exact set.declaredNames_deduplicated_perm.nodup set.nodup_declaredNames_deduplicated

end ForeignBindings.DeclarationSet
