import ForeignBindings.Proofs.CallbackSection
import ForeignBindings.Proofs.Text.Blank
import ForeignBindings.Proofs.UnresolvedTypes

/-!
# Reports of types in callbacks

A function pointer is mapped to a handle, so the report on types that nothing declares never looks
at the types it is made of. The callbacks section spells them out. So a type in a callback is
reported exactly when something other than a function pointer uses it as well
(`ReportsCallbackNames.reported`).
-/

namespace ForeignBindings
open CType Identifier Layout Text

/-! ## Function pointers pass nothing through -/

theorem passthroughName_of_functionPointer {type : String} {signature : FunctionPointer}
    (parsed : FunctionPointer.parse? type = some signature) :
    (mapType type).passthroughName = none := by
  have trimmed : FunctionPointer.read? (trim type.toList) = some signature := by
    rw [← parsed, FunctionPointer.parse?, FunctionPointer.read?, FunctionPointer.read?, trim_trim]
  have handle : mapType type = .plain (String.ofList (trim type.toList)) false .handle := by
    rw [mapType, TypeMapping.ofText, trimmed]
    rfl
  rw [handle]
  rfl

/-! ## Names in the signature of a callback -/

namespace TypeMapping

variable {m : TypeMapping} {name : String}

theorem infix_abiName (passed : m.passthroughName = some name) :
    name.toList <:+: m.abiName.toList := by
  induction m with
  | plain spelling isConst form =>
      obtain ⟨rfl, -⟩ := passthroughName_plain.mp passed
      exact List.infix_refl _
  | array spelling length element ih =>
      rw [passthroughName] at passed
      obtain ⟨before, after, whole⟩ := ih passed
      refine ⟨'[' :: before, after ++ (s!"; {length}]").toList, ?_⟩
      rw [abiName]
      simp [← whole]

theorem infix_paramAbi (passed : m.passthroughName = some name) :
    name.toList <:+: m.paramAbi.toList := by
  cases m with
  | plain spelling isConst form => exact infix_abiName passed
  | array spelling length element =>
      rw [passthroughName] at passed
      rw [paramAbi, pointerTo, String.toList_append]
      exact (infix_abiName passed).trans (List.suffix_append _ _).isInfix

theorem isVoid_of_passthroughName (passed : m.passthroughName = some name) : m.isVoid = false := by
  cases m with
  | plain spelling isConst form =>
      obtain ⟨rfl, notUnit⟩ := passthroughName_plain.mp passed
      exact beq_eq_false_iff_ne.mpr notUnit
  | array spelling length element => exact isVoid_array spelling length element

end TypeMapping

/-- Some callback spells a type that passes a name through. -/
def SpellsName (callbacks : List Callback) (name : String) : Prop :=
  ∃ c ∈ callbacks, ∃ type ∈ c.spelledTypes, (mapType type).passthroughName = some name

/-- A name that a callback spells stands in the parameters or the result of its emitted type. -/
theorem Callback.exists_infix_item (convention : CallingConvention) {c : Callback}
    {type name : String} (spelled : type ∈ c.spelledTypes)
    (passed : (mapType type).passthroughName = some name) :
    ∃ text ∈ (c.item mapType convention).params ++ (c.item mapType convention).result.toList,
      name.toList <:+: text.toList := by
  rcases List.mem_append.mp spelled with param | result
  · exact ⟨_, List.mem_append_left _ (List.mem_map_of_mem param), TypeMapping.infix_paramAbi passed⟩
  · obtain rfl := List.mem_singleton.mp result
    have emitted : (c.item mapType convention).result =
        some (mapType c.signature.returnType).abiName := by
      rw [item]
      simp [TypeMapping.isVoid_of_passthroughName passed]
    refine ⟨_, List.mem_append_right _ ?_, TypeMapping.infix_abiName passed⟩
    rw [emitted]
    exact List.mem_singleton_self _

/-! ## The statement -/

/-- The callbacks of a generation, and the warnings about the names that they spell. -/
structure ReportsCallbackNames (set : DeclarationSet) (options : Options) (generation : Generation)
    (callbacks : List Callback) : Prop where
  content : generation.code.content? .callbacks =
    some (unlines (SectionKind.callbacks.header options ++
      ("use super::types::*;" ::
        spaced ((callbacks.map (·.item mapType options.convention)).map (·.lines)))))
  first : FirstCallbacks set callbacks
  emitted : ∀ c ∈ callbacks, ∀ type ∈ c.spelledTypes, ∀ name,
    (mapType type).passthroughName = some name →
      ∃ text ∈ (c.item mapType options.convention).params ++
        (c.item mapType options.convention).result.toList, name.toList <:+: text.toList
  hidden : ∀ type signature, FunctionPointer.parse? type = some signature →
    (mapType type).passthroughName = none
  reported : ∀ name, SpellsName callbacks name →
    ((∃ context, .unresolvedType name context ∈ generation.events) ↔
      set.PassesThrough name ∧ name ∉ set.typeNames)
  undeclared : ∀ name, SpellsName callbacks name → name ∉ set.typeIdents →
    (∀ word ∈ keywords, name ≠ "r#" ++ word) →
      ((∃ context, .unresolvedType name context ∈ generation.events) ↔ set.PassesThrough name)

theorem generate_reportsCallbackNames {tree : List Declaration} {options : Options}
    {generation : Generation} (h : generate tree options = .ok generation) :
    ∃ set, DeclarationSet.ofTree tree = .ok set ∧
      ReportsCallbackNames set.deduplicated options generation
        (CallbackTable.ofSet set.deduplicated).1.definitions := by
  obtain ⟨set, flat, content⟩ := content_generate h
  obtain ⟨other, flat', unresolved⟩ := unresolved_generate h
  obtain rfl : set = other := Except.ok.inj (flat.symm.trans flat')
  refine ⟨set, flat, ?_⟩
  exact
    { content := content .callbacks
      first := firstCallbacks set.deduplicated
      emitted := fun c _ type spelled name => c.exists_infix_item options.convention spelled
      hidden := fun type signature => passthroughName_of_functionPointer
      reported := fun name _ => exists_unresolvedType_iff unresolved name
      undeclared := by
        rintro name ⟨c, -, type, -, passed⟩ unemitted plain
        rw [exists_unresolvedType_iff unresolved, and_iff_left_iff_imp]
        intro _ declared
        obtain ⟨word, keyword, raw⟩ :=
          DeclarationSet.raw_of_not_mem_typeIdents passed declared unemitted
        exact plain word keyword raw }

/-- A type that a callback and a parameter of its function use. -/
theorem generate_reportsCallbackNames_listen :
    let tree : List Declaration := [.function ⟨"listen", "void",
      [⟨"handler", "void (*)(Missing, int)"⟩, ⟨"first", "Missing"⟩], none, false, false⟩]
    let options : Options := ⟨"Ui", "ui", .cdecl⟩
    ∃ generation, generate tree options = .ok generation ∧
      ∃ set, DeclarationSet.ofTree tree = .ok set ∧
        ReportsCallbackNames set.deduplicated options generation
          (CallbackTable.ofSet set.deduplicated).1.definitions :=
  ⟨_, rfl, generate_reportsCallbackNames rfl⟩

/-- A callback is emitted with a type that nothing declares and that no event reports. -/
theorem generate_onEvent_reportsNothing :
    let tree : List Declaration := [.function ⟨"on_event", "void",
      [⟨"cb", "void (*)(Missing)"⟩], none, false, false⟩]
    let options : Options := ⟨"NS", "lib", .cdecl⟩
    ∃ set callbacks generation, DeclarationSet.ofTree tree = .ok set ∧
      synthesize tree = .ok callbacks ∧ generate tree options = .ok generation ∧
      callbacks.map (fun c => (c.item mapType options.convention).params) = [["Missing"]] ∧
      SpellsName callbacks "Missing" ∧ set.deduplicated.typeIdents = [] ∧
      ∀ context, .unresolvedType "Missing" context ∉ generation.events := by
  intro tree options
  let signature : FunctionPointer := ⟨"void", ["Missing"]⟩
  let callback : Callback := ⟨"OnEventCbCallback", signature,
    some "Native callback `void (*)(Missing)` used by parameter `cb` of `on_event`."⟩
  have callbacks : synthesize tree = .ok [callback] := rfl
  have generated : ∃ generation, generate tree options = .ok generation := ⟨_, rfl⟩
  obtain ⟨generation, generated⟩ := generated
  obtain ⟨set, flat, unresolved⟩ := unresolved_generate generated
  have spelled : SpellsName [callback] "Missing" :=
    ⟨callback, List.mem_singleton_self _, "Missing", by decide, by decide⟩
  refine ⟨set, [callback], generation, flat, callbacks, generated, by decide, spelled, ?_, ?_⟩
  · cases flat
    decide
  · intro context
    have silent : generation.events.filterMap (·.unresolved?) = [] := by
      rw [unresolved]
      cases flat
      decide
    rw [← mem_unresolved_iff, silent]
    exact List.not_mem_nil

end ForeignBindings
