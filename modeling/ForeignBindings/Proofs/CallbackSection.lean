import ForeignBindings.Proofs.CallbackTable
import ForeignBindings.Proofs.DefinedFunctions
import ForeignBindings.Proofs.TypeNames

/-!
# What the callbacks section defines

The name of a callback is made of letters and digits and ends with a word that no keyword ends with,
so that its identifier is the name itself up to a digit at the front (`ident_callbackName`). The
lines of an emitted callback then define its type and its two functions
(`CallbackItem.definitions_lines`), and the section defines these for every callback in order.
-/

namespace ForeignBindings
open CType Identifier Layout Text

/-! ## Names of callbacks -/

theorem isAlphanumeric_callbackName (owner member : String) :
    IsAlphanumeric (callbackName owner member) := by
  have suffix : IsAlphanumeric "Callback" := List.all_eq_true.mp (by decide)
  exact ((isAlphanumeric_upperCamelCase owner).append (isAlphanumeric_upperCamelCase member)).append
    suffix

theorem suffix_callbackName (owner member : String) :
    "Callback".toList <:+ (callbackName owner member).toList := by
  rw [callbackName, String.toList_append]
  exact List.suffix_append _ _

theorem spelling_callbackName (owner member : String) :
    spelling (callbackName owner member) ≠ [] := by
  rw [spelling_of_isWord (isAlphanumeric_callbackName owner member).isWord]
  intro empty
  have suffix := suffix_callbackName owner member
  rw [empty] at suffix
  exact absurd suffix (by decide)

theorem guardKeyword_of_suffix {chars : List Char} (suffix : "Callback".toList <:+ chars) :
    guardKeyword (String.ofList chars) = String.ofList chars := by
  have plain : ∀ word ∈ reservedWords ++ keywords, ¬"Callback".toList <:+ word.toList := by decide
  have unlisted : String.ofList chars ∉ reservedWords ++ keywords := by
    intro listed
    have absent := plain _ listed
    rw [String.toList_ofList (l := chars)] at absent
    exact absent suffix
  rw [List.mem_append, not_or] at unlisted
  exact guardKeyword_eq_self unlisted.1 unlisted.2

theorem ident_callbackName (owner member fallback : String) :
    ident (callbackName owner member) fallback =
      String.ofList (guardDigit (callbackName owner member).toList) := by
  have suffix : "Callback".toList <:+ guardDigit (callbackName owner member).toList := by
    unfold guardDigit
    split
    · exact (suffix_callbackName owner member).trans (List.suffix_cons '_' _)
    · exact suffix_callbackName owner member
  rw [ident_of_spelling (spelling_callbackName owner member),
    spelling_of_isWord (isAlphanumeric_callbackName owner member).isWord]
  exact guardKeyword_of_suffix suffix

theorem isWord_ident_callbackName (owner member fallback : String) :
    IsWord (ident (callbackName owner member) fallback) := by
  have word := isWord_guardDigit (callbackName owner member)
  rwa [spelling_of_isWord (isAlphanumeric_callbackName owner member).isWord,
    ← ident_callbackName owner member fallback] at word

theorem StandsAt.exists_callbackName {set : DeclarationSet} {type name : String}
    (stands : StandsAt set type name) : ∃ owner member, name = callbackName owner member := by
  cases stands with
  | result => exact ⟨_, _, rfl⟩
  | parameter => exact ⟨_, _, rfl⟩
  | structField => exact ⟨_, _, rfl⟩
  | classField => exact ⟨_, _, rfl⟩
  | typedef => exact ⟨_, _, rfl⟩

theorem FirstCallbacks.exists_callbackName {set : DeclarationSet} {callbacks : List Callback}
    (first : FirstCallbacks set callbacks) {c : Callback} (member : c ∈ callbacks) :
    ∃ owner member, c.name = callbackName owner member := by
  obtain ⟨-, type, stands, -⟩ := first.spelled c member
  exact stands.exists_callbackName

/-! ## Lines of an emitted callback -/

theorem unbroken_commaSeparated {items : List String} (plain : ∀ item ∈ items, Unbroken item) :
    Unbroken (commaSeparated items) := by
  unfold commaSeparated
  induction items with
  | nil => exact unbroken_ofList rfl
  | cons item rest ih =>
      obtain ⟨front, back⟩ := List.forall_mem_cons.mp plain
      cases rest with
      | nil =>
          rw [String.intercalate_singleton]
          exact front
      | cons next rest =>
          rw [String.intercalate_cons_of_ne_nil (List.cons_ne_nil next rest)]
          exact (front.append (unbroken_ofList rfl)).append (ih back)

/-- An emitted callback whose names are words and whose types are on one line. -/
structure CallbackItem.IsPlain (item : CallbackItem) : Prop where
  name : IsWord item.name
  wrapName : IsWord item.wrapName
  unwrapName : IsWord item.unwrapName
  abi : Unbroken item.abi
  params : ∀ type ∈ item.params, Unbroken type
  result : ∀ type ∈ item.result, Unbroken type

namespace CallbackItem

variable {item : CallbackItem}

/-- What the lines of an emitted callback define. -/
def definitions (item : CallbackItem) : List Definition :=
  [.typeAlias item.name, .function item.wrapName, .function item.unwrapName]

theorem IsPlain.unbroken_resultSuffix (plain : item.IsPlain) :
    Unbroken (resultSuffix item.result) := by
  cases found : item.result with
  | none => exact unbroken_ofList rfl
  | some type => exact (unbroken_ofList rfl).append (plain.result type found)

theorem isComment_documentation {text l : String}
    (member : l ∈ (linesOf text).map ("/// " ++ ·)) : IsComment l ∧ '\n' ∉ l.toList := by
  obtain ⟨line, inText, rfl⟩ := List.mem_map.mp member
  refine ⟨(isComment_ofList ['/', '/', ' ']).append line, ?_⟩
  have noFeed := noFeed_of_mem_linesOf inText
  simpa using noFeed

theorem filterMap_typeLines (plain : item.IsPlain) :
    item.typeLines.filterMap definition? = [.typeAlias item.name] := by
  have defined : definition? (s!"pub type {item.name} = unsafe extern \"{item.abi}\" " ++
      s!"fn({commaSeparated item.params}){resultSuffix item.result};") =
        some (.typeAlias item.name) := by
    have back : " = unsafe extern \"" = " " ++ "= unsafe extern \"" := rfl
    simp only [toString_string, back, String.append_assoc]
    simpa only [String.append_assoc] using definition?_alias plain.name _
  unfold typeLines
  rw [List.filterMap_append, List.filterMap_cons_some defined, List.filterMap_nil]
  cases item.documentation with
  | none => rfl
  | some text =>
      have comments : ∀ l ∈ (linesOf text).map ("/// " ++ ·), IsComment l :=
        fun l member => (isComment_documentation member).1
      rw [readsHeads_definition?.filterMap_comments comments, List.nil_append]

theorem filterMap_wrapLines (plain : item.IsPlain) :
    item.wrapLines.filterMap definition? = [.function item.wrapName] := by
  have head : definition? (s!"pub fn {item.wrapName}(callback: {item.name}) -> NativeHandle" ++
      " \x7b") = some (.function item.wrapName) := by
    have known : "pub " ∈ ["", "unsafe ", "pub ", "pub unsafe "] := by simp
    have front : "pub fn " = "pub " ++ "fn " := rfl
    have back : "(callback: " = "(" ++ "callback: " := rfl
    simp only [toString_string, front, back, String.append_assoc]
    simpa only [String.append_assoc] using definition?_head _ known plain.wrapName
  unfold wrapLines
  rw [readsHeads_definition?.filterMap_comment, readsHeads_definition?.filterMap_block, head]
  · rfl
  · exact ((isComment_ofList _).append _).append _

theorem filterMap_unwrapLines (plain : item.IsPlain) :
    item.unwrapLines.filterMap definition? = [.function item.unwrapName] := by
  have head : definition?
      (s!"pub unsafe fn {item.unwrapName}(handle: NativeHandle) -> Option<{item.name}>" ++
        " \x7b") = some (.function item.unwrapName) := by
    have known : "pub unsafe " ∈ ["", "unsafe ", "pub ", "pub unsafe "] := by simp
    have front : "pub unsafe fn " = "pub unsafe " ++ "fn " := rfl
    have back : "(handle: NativeHandle) -> Option<" = "(" ++ "handle: NativeHandle) -> Option<" :=
      rfl
    simp only [toString_string, front, back, String.append_assoc]
    simpa only [String.append_assoc] using definition?_head _ known plain.unwrapName
  unfold unwrapLines
  rw [List.filterMap_append, readsHeads_definition?.filterMap_comments,
    readsHeads_definition?.filterMap_block, head]
  · rfl
  · simp only [List.forall_mem_cons]
    refine ⟨((isComment_ofList _).append _).append _, ?_⟩
    exact ⟨isComment_ofList _, isComment_ofList _, isComment_ofList _, List.forall_mem_nil _⟩

theorem filterMap_lines (plain : item.IsPlain) :
    item.lines.filterMap definition? = item.definitions := by
  rw [lines, List.filterMap_append, readsHeads_definition?.filterMap_blank,
    List.filterMap_append, readsHeads_definition?.filterMap_blank,
    filterMap_typeLines plain, filterMap_wrapLines plain, filterMap_unwrapLines plain]
  rfl

/-! ### Reading the lines back -/

theorem relays_typeLines (plain : item.IsPlain) : ∀ l ∈ item.typeLines, Relays l := by
  unfold typeLines
  rw [List.forall_mem_append, List.forall_mem_singleton]
  constructor
  · cases item.documentation with
    | none => exact List.forall_mem_nil _
    | some text => exact fun l member => .inr (isComment_documentation member)
  · refine .inl ?_
    have name := unbroken_of_isIdentChar plain.name.isIdentChar
    have params := unbroken_commaSeparated plain.params
    have result := plain.unbroken_resultSuffix
    simp only [toString_string, unbroken_append_iff, name, plain.abi, params, result, and_true]
    and_intros <;> exact unbroken_ofList rfl

theorem unbroken_wrapLines (plain : item.IsPlain) : ∀ l ∈ item.wrapLines, Unbroken l := by
  have name := unbroken_of_isIdentChar plain.name.isIdentChar
  have wrapName := unbroken_of_isIdentChar plain.wrapName.isIdentChar
  simp only [wrapLines, toString_string, List.forall_mem_cons, List.not_mem_nil, false_imp_iff,
    implies_true, unbroken_block_iff, unbroken_append_iff, name, wrapName, and_true]
  and_intros <;> exact unbroken_ofList rfl

theorem unbroken_unwrapLines (plain : item.IsPlain) : ∀ l ∈ item.unwrapLines, Unbroken l := by
  have name := unbroken_of_isIdentChar plain.name.isIdentChar
  have unwrapName := unbroken_of_isIdentChar plain.unwrapName.isIdentChar
  simp only [unwrapLines, toString_string, List.forall_mem_append, List.forall_mem_cons,
    List.not_mem_nil, false_imp_iff, implies_true, unbroken_block_iff, unbroken_append_iff, name,
    unwrapName, and_true]
  and_intros <;> exact unbroken_ofList rfl

theorem relays_lines (plain : item.IsPlain) : ∀ l ∈ item.lines, Relays l := by
  have blank : Relays "" := .inl (unbroken_ofList rfl)
  rw [lines, List.forall_mem_append, List.forall_mem_append, List.forall_mem_cons,
    List.forall_mem_cons]
  refine ⟨⟨relays_typeLines plain, blank, ?_⟩, blank, ?_⟩
  · exact fun l member => .inl (unbroken_wrapLines plain l member)
  · exact fun l member => .inl (unbroken_unwrapLines plain l member)

end CallbackItem

/-! ## The section -/

theorem CallingConvention.unbroken_abi (convention : CallingConvention) :
    Unbroken convention.abi := by
  cases convention with
  | cdecl => exact unbroken_ofList rfl
  | stdcall => exact unbroken_ofList rfl
  | fastcall => exact unbroken_ofList rfl

theorem Callback.isPlain_item (convention : CallingConvention) {c : Callback}
    (named : ∃ owner member, c.name = callbackName owner member) :
    (c.item mapType convention).IsPlain := by
  have name : IsWord (ident c.name "Callback") := by
    obtain ⟨owner, member, same⟩ := named
    rw [same]
    exact isWord_ident_callbackName owner member "Callback"
  have wrap : IsWord "wrap_" := isWord_ofList rfl
  have unwrap : IsWord "unwrap_" := isWord_ofList rfl
  refine
    { name := name
      wrapName := wrap.append (isWord_snakeCase c.name)
      unwrapName := unwrap.append (isWord_snakeCase c.name)
      abi := convention.unbroken_abi
      params := List.forall_mem_map.mpr fun type _ => unbroken_paramAbi_mapType type
      result := fun type found => ?_ }
  simp only [item] at found
  split at found
  · cases found
  · obtain rfl := Option.some.inj found
    exact unbroken_abiName_mapType _

namespace CallbacksSection

variable {callbacks : List Callback} (convention : CallingConvention)
  (named : ∀ c ∈ callbacks, ∃ owner member, c.name = callbackName owner member)
include named

theorem isPlain_of_mem {item : CallbackItem} (member : item ∈ items mapType convention callbacks) :
    item.IsPlain := by
  obtain ⟨c, inCallbacks, rfl⟩ := List.mem_map.mp member
  exact c.isPlain_item convention (named c inCallbacks)

theorem definitions_lines :
    definitions (unlines (lines mapType convention callbacks)) =
      (items mapType convention callbacks).flatMap (·.definitions) := by
  have plain : ∀ item ∈ items mapType convention callbacks, item.IsPlain :=
    fun _ => isPlain_of_mem convention named
  have relays : ∀ l ∈ lines mapType convention callbacks, Relays l := by
    simp only [lines, spaced, List.forall_mem_cons, List.mem_flatMap, List.mem_map]
    refine ⟨.inl (unbroken_ofList rfl), ?_⟩
    rintro l ⟨-, ⟨item, inItems, rfl⟩, member⟩
    rcases List.mem_cons.mp member with rfl | member
    · exact .inl (unbroken_ofList rfl)
    · exact CallbackItem.relays_lines (plain item inItems) l member
  have imports : definition? "use super::types::*;" = none := by decide
  rw [definitions, readsHeads_definition?.filterMap_linesOf_unlines relays, lines,
    List.filterMap_cons_none imports, readsHeads_definition?.filterMap_spaced, List.flatMap_map]
  exact List.flatMap_congr fun item inItems => CallbackItem.filterMap_lines (plain item inItems)

end CallbacksSection

theorem FirstCallbacks.nodup_idents {set : DeclarationSet} {callbacks : List Callback}
    (first : FirstCallbacks set callbacks) :
    (callbacks.map fun c => ident c.name "Callback").Nodup := by
  have injective : ∀ a ∈ callbacks.map (·.name), ∀ b ∈ callbacks.map (·.name),
      ident a "Callback" = ident b "Callback" → a = b := by
    intro a inNames b inNames' same
    obtain ⟨c, member, rfl⟩ := List.mem_map.mp inNames
    obtain ⟨c', member', rfl⟩ := List.mem_map.mp inNames'
    obtain ⟨owner, part, name⟩ := first.exists_callbackName member
    obtain ⟨owner', part', name'⟩ := first.exists_callbackName member'
    rw [name, name'] at same ⊢
    have shared := (ident_eq_ident_iff (spelling_callbackName owner part)
      (spelling_callbackName owner' part') _ _).mp same
    exact eq_of_sharesIdent (isAlphanumeric_callbackName owner part)
      (isAlphanumeric_callbackName owner' part') shared
  have distinct := first.distinct.map_on injective
  rwa [List.map_map] at distinct

/-! ## The statement -/

/-- The callbacks are the first of their names in a set, and the callbacks section defines a type, a
function that wraps and a function that unwraps for each of them, in order. -/
structure RendersFirstCallbacks (set : DeclarationSet) (options : Options) (code : GeneratedCode)
    (callbacks : List Callback) : Prop where
  first : FirstCallbacks set callbacks
  content : code.content? .callbacks = some (unlines (SectionKind.callbacks.header options ++
    CallbacksSection.lines mapType options.convention callbacks))
  definitions :
    definitions (unlines (CallbacksSection.lines mapType options.convention callbacks)) =
      callbacks.flatMap fun c =>
        [.typeAlias (ident c.name "Callback"), .function ("wrap_" ++ snakeCase c.name),
          .function ("unwrap_" ++ snakeCase c.name)]
  types : (callbacks.map fun c => ident c.name "Callback").Nodup

theorem rendersFirstCallbacks (set : DeclarationSet) (options : Options) :
    RendersFirstCallbacks set options (generateFrom set options).code
      (CallbackTable.ofSet set).1.definitions := by
  have first := firstCallbacks set
  have named := fun c member => first.exists_callbackName (c := c) member
  exact
    { first := first
      content := content_generateFrom set options .callbacks
      definitions := by
        rw [CallbacksSection.definitions_lines options.convention named, CallbacksSection.items,
          List.flatMap_map]
        rfl
      types := first.nodup_idents }

/-- A tree that flattens has callbacks and sections, and the section renders the callbacks. -/
theorem generate_rendersFirstCallbacks (tree : List Declaration) (options : Options) :
    (∃ e, DeclarationSet.ofTree tree = .error e ∧ synthesize tree = .error e ∧
      generate tree options = .error e) ∨
    ∃ set callbacks generation, DeclarationSet.ofTree tree = .ok set ∧
      synthesize tree = .ok callbacks ∧ generate tree options = .ok generation ∧
      RendersFirstCallbacks set.deduplicated options generation.code callbacks := by
  unfold synthesize generate
  cases DeclarationSet.ofTree tree with
  | error e => exact .inl ⟨e, rfl, rfl, rfl⟩
  | ok set =>
      exact .inr ⟨set, _, _, rfl, rfl, rfl, rendersFirstCallbacks set.deduplicated options⟩

/-- Parameters of two functions spell one name, and the first is kept. -/
example :
    let keyDown : FunctionDecl :=
      ⟨"on", "void", [⟨"key_down", "void (*)(int)"⟩], none, false, false⟩
    let down : FunctionDecl := ⟨"on_key", "void", [⟨"down", "int (*)(void)"⟩], none, false, false⟩
    synthesize [.function keyDown, .function down] = .ok [⟨"OnKeyDownCallback", ⟨"void", ["int"]⟩,
      some "Native callback `void (*)(int)` used by parameter `key_down` of `on`."⟩] := by
  rfl

end ForeignBindings
