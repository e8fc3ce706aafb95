import ForeignBindings.Proofs.CallAgreement

/-!
# Names that share an identifier

Emission turns every name into an identifier, and different names may become the same one. The way
has three steps: foreign characters become underscores (`spelling`), a digit at the front and a few
words get an underscore (`EscapesTo`), and a keyword is marked as raw. Only the first two merge
names (`ident_eq_ident_iff`). So names that are distinct as they were written do not suffice for
distinct identifiers, and `generate_definesNames` says what does.
-/

namespace ForeignBindings
open Identifier Layout Text

namespace Identifier

/-! ## The spelling of a name -/

/-- A name with an underscore for every character that an identifier may not hold. -/
def spelling (raw : String) : List Char :=
  (trim raw.toList).map fun c => if isWordChar c then c else '_'

def startsWithDigit (cs : List Char) : Bool := cs.head?.any Char.isDigit

/-- A spelling that is not an identifier as it stands, and the one it is escaped to. -/
inductive EscapesTo : List Char → List Char → Prop
  | digit {cs} : startsWithDigit cs = true → EscapesTo cs ('_' :: cs)
  | reserved {word} : word ∈ reservedWords → EscapesTo word.toList (word.toList ++ ['_'])

/-- Two names are spelled alike, or one is spelled like what the other is escaped to. -/
def SharesIdent (a b : String) : Prop :=
  spelling a = spelling b ∨ EscapesTo (spelling a) (spelling b) ∨
    EscapesTo (spelling b) (spelling a)

/-! ## What escaping merges -/

/-- Keeps a digit from standing first. -/
def guardDigit (cs : List Char) : List Char := if startsWithDigit cs then '_' :: cs else cs

theorem guardDigit_ne_nil {cs : List Char} (nonempty : cs ≠ []) : guardDigit cs ≠ [] := by
  unfold guardDigit
  split
  · exact List.cons_ne_nil '_' cs
  · exact nonempty

theorem startsWithDigit_guardDigit (cs : List Char) : startsWithDigit (guardDigit cs) = false := by
  unfold guardDigit
  split
  · rfl
  · rename_i plain
    exact Bool.eq_false_iff.mpr plain

theorem wordOf_eq (raw : String) : wordOf (trim raw.toList) = guardDigit (spelling raw) := by
  unfold wordOf guardDigit
  rw [← spelling]
  cases spelling raw <;> rfl

theorem ident_of_spelling {raw : String} (nonblank : spelling raw ≠ []) (fallback : String) :
    ident raw fallback = guardKeyword (String.ofList (guardDigit (spelling raw))) := by
  unfold ident
  split
  · rename_i blank
    rw [wordOf_eq, guardDigit] at blank
    split at blank
    · cases blank
    · exact absurd blank nonblank
  · rw [wordOf_eq]

theorem ident_of_blank {raw : String} (blank : spelling raw = []) (fallback : String) :
    ident raw fallback = fallback := by
  unfold ident
  rw [wordOf_eq, blank]
  rfl

theorem isWord_guardDigit (raw : String) : IsWord (String.ofList (guardDigit (spelling raw))) := by
  intro c member
  rw [String.toList_ofList, ← wordOf_eq] at member
  exact mem_wordOf member

/-- Without a digit behind its first character, a guarded spelling was left alone. -/
theorem eq_of_guardDigit_eq {cs word : List Char} (guarded : guardDigit cs = word)
    (plain : startsWithDigit word.tail = false) : cs = word := by
  unfold guardDigit at guarded
  split at guarded
  · rename_i starts
    rw [← guarded, List.tail_cons, starts] at plain
    cases plain
  · exact guarded

theorem eq_or_escapesTo_of_guardDigit_eq {s t : List Char} (same : guardDigit s = guardDigit t) :
    s = t ∨ EscapesTo s t ∨ EscapesTo t s := by
  unfold guardDigit at same
  split at same <;> split at same
  · exact .inl (List.cons_inj_right '_' |>.mp same)
  · rename_i starts _
    exact .inr (.inl (same ▸ .digit starts))
  · rename_i _ starts
    exact .inr (.inr (same ▸ .digit starts))
  · exact .inl same

theorem not_isWord_mark (s : String) : ¬IsWord ("r#" ++ s) := by
  intro word
  have mark : isWordChar '#' = true := word '#' (by simp)
  revert mark
  decide

theorem eq_or_reserved_of_guardKeyword_eq {u v : String} (first : IsWord u) (second : IsWord v)
    (same : guardKeyword u = guardKeyword v) :
    u = v ∨ (u ∈ reservedWords ∧ v = u ++ "_") ∨ (v ∈ reservedWords ∧ u = v ++ "_") := by
  have underscore : IsWord "_" := isWord_ofList rfl
  unfold guardKeyword at same
  split at same
  · rename_i reserved
    split at same
    · exact .inl (by simpa using same)
    · split at same
      · exact absurd (same ▸ first.append underscore) (not_isWord_mark v)
      · exact .inr (.inl ⟨reserved, same.symm⟩)
  · split at same
    · split at same
      · exact absurd (same.symm ▸ second.append underscore) (not_isWord_mark u)
      · split at same
        · exact .inl (by simpa using same)
        · exact absurd (same.symm ▸ second) (not_isWord_mark u)
    · split at same
      · rename_i reserved
        exact .inr (.inr ⟨reserved, same⟩)
      · split at same
        · exact absurd (same ▸ first) (not_isWord_mark v)
        · exact .inl same

theorem escapesTo_of_reserved {s t : List Char}
    (reserved : String.ofList (guardDigit s) ∈ reservedWords)
    (same : String.ofList (guardDigit t) = String.ofList (guardDigit s) ++ "_") :
    EscapesTo s t := by
  have plain : ∀ word ∈ reservedWords, startsWithDigit word.toList.tail = false ∧
      startsWithDigit (word.toList ++ ['_']).tail = false := by decide
  generalize guarded : String.ofList (guardDigit s) = word at reserved same
  have first : guardDigit s = word.toList := by rw [← guarded, String.toList_ofList]
  have second : guardDigit t = word.toList ++ ['_'] := by
    have chars := congrArg String.toList same
    rwa [String.toList_ofList, String.toList_append] at chars
  rw [eq_of_guardDigit_eq first (plain word reserved).1,
    eq_of_guardDigit_eq second (plain word reserved).2]
  exact .reserved reserved

theorem guardKeyword_of_escapesTo {s t : List Char} (escapes : EscapesTo s t) :
    guardKeyword (String.ofList (guardDigit s)) = guardKeyword (String.ofList (guardDigit t)) := by
  cases escapes with
  | digit starts =>
      have left : guardDigit s = '_' :: s := if_pos starts
      have right : guardDigit ('_' :: s) = '_' :: s := rfl
      rw [left, right]
  | @reserved word known =>
      have checked : ∀ word ∈ reservedWords,
          guardKeyword (String.ofList (guardDigit word.toList)) =
            guardKeyword (String.ofList (guardDigit (word.toList ++ ['_']))) := by decide
      exact checked word known

/-- Two names that are not blank become one identifier exactly when they are spelled alike up to
what escaping adds. -/
theorem ident_eq_ident_iff {a b : String} (first : spelling a ≠ []) (second : spelling b ≠ [])
    (fallback fallback' : String) : ident a fallback = ident b fallback' ↔ SharesIdent a b := by
  rw [ident_of_spelling first, ident_of_spelling second]
  constructor
  · intro same
    rcases eq_or_reserved_of_guardKeyword_eq (isWord_guardDigit a) (isWord_guardDigit b) same with
      same | ⟨reserved, same⟩ | ⟨reserved, same⟩
    · exact eq_or_escapesTo_of_guardDigit_eq (String.ofList_injective same)
    · exact .inr (.inl (escapesTo_of_reserved reserved same))
    · exact .inr (.inr (escapesTo_of_reserved reserved same))
  · rintro (same | escapes | escapes)
    · rw [same]
    · exact guardKeyword_of_escapesTo escapes
    · exact (guardKeyword_of_escapesTo escapes).symm

/-! ## Names that are words -/

theorem map_wordChars {cs : List Char} (word : ∀ c ∈ cs, isWordChar c = true) :
    cs.map (fun c => if isWordChar c then c else '_') = cs := by
  have kept : ∀ c ∈ cs, (if isWordChar c then c else '_') = c := fun c member =>
    if_pos (word c member)
  rw [List.map_congr_left kept, List.map_id']

theorem spelling_of_isWord {s : String} (word : IsWord s) : spelling s = s.toList := by
  rw [spelling, trim_word word, map_wordChars word]

theorem guardKeyword_eq_self {word : String} (unreserved : word ∉ reservedWords)
    (unmarked : word ∉ keywords) : guardKeyword word = word := by
  rw [guardKeyword, if_neg unreserved, if_neg unmarked]

theorem EscapesTo.underscore_mem {s t : List Char} (escapes : EscapesTo s t) : '_' ∈ t := by
  cases escapes with
  | digit => exact List.mem_cons_self
  | reserved => exact List.mem_append_right _ (List.mem_singleton_self '_')

theorem underscore_not_mem_spelling {s : String} (alphanumeric : IsAlphanumeric s) :
    '_' ∉ spelling s := by
  intro member
  rw [spelling_of_isWord alphanumeric.isWord] at member
  cases alphanumeric '_' member

theorem eq_of_sharesIdent {a b : String} (first : IsAlphanumeric a) (second : IsAlphanumeric b)
    (shared : SharesIdent a b) : a = b := by
  rcases shared with same | escapes | escapes
  · rw [spelling_of_isWord first.isWord, spelling_of_isWord second.isWord] at same
    exact String.toList_inj.mp same
  · exact absurd escapes.underscore_mem (underscore_not_mem_spelling second)
  · exact absurd escapes.underscore_mem (underscore_not_mem_spelling first)

/-! ## Names and their fallbacks -/

/-- The name that stands for a declaration: its own, or a fallback for a blank one. -/
def label (raw fallback : String) : String := if spelling raw = [] then fallback else raw

theorem ident_label {raw fallback : String} (fixed : ident fallback "" = fallback) :
    ident (label raw fallback) "" = ident raw fallback := by
  unfold label
  split
  · rename_i blank
    rw [fixed, ident_of_blank blank]
  · rename_i nonblank
    rw [ident_of_spelling nonblank, ident_of_spelling nonblank]

theorem spelling_label {raw fallback : String} (nonblank : spelling fallback ≠ []) :
    spelling (label raw fallback) ≠ [] := by
  unfold label
  split
  · exact nonblank
  · assumption

theorem nodup_idents_iff {labels : List String} (nonblank : ∀ l ∈ labels, spelling l ≠ []) :
    (labels.map (ident · "")).Nodup ↔ labels.Pairwise fun a b => ¬SharesIdent a b := by
  rw [List.Nodup, List.pairwise_map]
  refine List.Pairwise.iff_of_mem fun {a b} inA inB => ?_
  exact not_congr (ident_eq_ident_iff (nonblank a inA) (nonblank b inB) "" "")

end Identifier

/-! ## What the sections define -/

/-- The line that defines the name of an item. -/
def TypeItem.definition : TypeItem → String
  | .enum item => s!"pub struct {item.name}(pub {item.storage.name});"
  | .record item => s!"pub struct {item.name}" ++ " \x7b"
  | .typeAlias item => s!"pub type {item.name} = {item.target};"

theorem TypeItem.definition_mem_lines (item : TypeItem) : item.definition ∈ item.lines := by
  cases item with
  | enum item =>
      rw [lines, EnumItem.lines]
      -- The operators and the `impl` block stand behind the definition.
      iterate 4 apply List.mem_append_left
      exact List.mem_append_right _ (.tail _ (.tail _ (.head _)))
  | record item => exact List.mem_append_right _ (List.mem_cons_self ..)
  | typeAlias item => exact List.mem_append_right _ (List.mem_cons_self ..)

theorem Binding.signatureLine_mem_lines (b : Binding) : b.signatureLine ∈ b.lines := by
  exact List.mem_append_right _ (List.mem_cons_self ..)

/-- The line that defines the type of native handles. -/
def handleDefinition : String := "pub struct NativeHandle(pub usize);"

theorem handleDefinition_mem_preamble : handleDefinition ∈ TypesSection.preamble :=
  List.mem_append_left _ (.tail _ (.tail _ (.tail _ (.tail _ (.tail _ (.head _))))))

namespace DeclarationSet

/-- The names under which the types section defines something: that of native handles, and those of
the declarations of a set. -/
def typeLabels (set : DeclarationSet) : List String :=
  "NativeHandle" ::
    (set.enums.map (fun e => label e.name "UnnamedEnum") ++
      set.structs.map (fun s => label s.name "Unnamed") ++
      set.typedefs.map (fun t => label t.name "Unnamed") ++
      set.classes.map (fun c => label c.name "Unnamed"))

/-- The names under which the bindings section declares the functions of a set. -/
def functionLabels (set : DeclarationSet) : List String :=
  set.functions.map fun f => label f.symbol "unnamed"

variable (set : DeclarationSet)

theorem map_ident_typeLabels :
    set.typeLabels.map (ident · "") =
      "NativeHandle" :: (TypesSection.items mapType set).map (·.name) := by
  have handle : ident "NativeHandle" "" = "NativeHandle" := by decide
  have unnamed : ident "Unnamed" "" = "Unnamed" := by decide
  have unnamedEnum : ident "UnnamedEnum" "" = "UnnamedEnum" := by decide
  simp only [typeLabels, TypesSection.items, List.map_cons, List.map_append, List.map_map, handle,
    Function.comp_def, ident_label unnamed, ident_label unnamedEnum]
  rfl

theorem map_ident_functionLabels (options : Options) :
    set.functionLabels.map (ident · "") =
      (BindingsSection.items mapType options set).map (·.symbol) := by
  have unnamed : ident "unnamed" "" = "unnamed" := by decide
  simp only [functionLabels, BindingsSection.items, List.map_map, Function.comp_def,
    ident_label unnamed]
  rfl

theorem spelling_typeLabels : ∀ l ∈ set.typeLabels, spelling l ≠ [] := by
  have unnamed : spelling "Unnamed" ≠ [] := by decide
  have unnamedEnum : spelling "UnnamedEnum" ≠ [] := by decide
  simp only [typeLabels, List.forall_mem_cons, List.forall_mem_append, List.forall_mem_map]
  exact ⟨by decide, ⟨⟨fun _ _ => spelling_label unnamedEnum, fun _ _ => spelling_label unnamed⟩,
    fun _ _ => spelling_label unnamed⟩, fun _ _ => spelling_label unnamed⟩

theorem spelling_functionLabels : ∀ l ∈ set.functionLabels, spelling l ≠ [] := by
  have unnamed : spelling "unnamed" ≠ [] := by decide
  exact List.forall_mem_map.mpr fun _ _ => spelling_label unnamed

end DeclarationSet

/-! ## The statement -/

/-- The items of the types section and of the bindings section of a tree: each has a line that
defines its name, the names as they were written are distinct, and the identifiers are distinct
exactly when no two names share one. -/
structure DefinesNames (set : DeclarationSet) (options : Options) (code : GeneratedCode)
    (types : List TypeItem) (bindings : List Binding) : Prop where
  typesContent : code.content? .types = some (unlines (SectionKind.types.header options ++
    (TypesSection.preamble ++ spaced (types.map (·.lines)))))
  bindingsContent : code.content? .bindings = some (unlines (SectionKind.bindings.header options ++
    ("use super::types::*;" :: spaced (bindings.map (·.lines)))))
  handleLine : handleDefinition ∈ TypesSection.preamble
  typeLines : ∀ item ∈ types, item.definition ∈ item.lines
  bindingLines : ∀ b ∈ bindings, b.signatureLine ∈ b.lines
  written : set.typeNames.Nodup ∧ set.symbols.Nodup
  types : ("NativeHandle" :: types.map (·.name)).Nodup ↔
    set.typeLabels.Pairwise fun a b => ¬SharesIdent a b
  functions : (bindings.map (·.symbol)).Nodup ↔
    set.functionLabels.Pairwise fun a b => ¬SharesIdent a b

theorem generate_definesNames {tree : List Declaration} {options : Options}
    {generation : Generation} (h : generate tree options = .ok generation) :
    ∃ set, DeclarationSet.ofTree tree = .ok set ∧
      DefinesNames set.deduplicated options generation.code
        (TypesSection.items mapType set.deduplicated)
        (BindingsSection.items mapType options set.deduplicated) := by
  obtain ⟨set, flat, content⟩ := content_generate h
  refine ⟨set, flat, ?_⟩
  exact
    { typesContent := content .types
      bindingsContent := content .bindings
      handleLine := handleDefinition_mem_preamble
      typeLines := fun item _ => item.definition_mem_lines
      bindingLines := fun b _ => b.signatureLine_mem_lines
      written := ⟨set.declaredNames_deduplicated_perm.nodup set.nodup_declaredNames_deduplicated,
        set.nodup_symbols_deduplicated⟩
      types := by
        rw [← DeclarationSet.map_ident_typeLabels]
        exact nodup_idents_iff (DeclarationSet.spelling_typeLabels _)
      functions := by
        rw [← DeclarationSet.map_ident_functionLabels]
        exact nodup_idents_iff (DeclarationSet.spelling_functionLabels _) }

/-- Names that differ in one character of an operator, and a type called like native handles. -/
theorem generate_definesNames_operators :
    let tree : List Declaration := [.function ⟨"operator+", "void", [], none, false, false⟩,
      .function ⟨"operator-", "void", [], none, false, false⟩, .struct ⟨"NativeHandle", [], none⟩]
    let options : Options := ⟨"Ui", "ui", .cdecl⟩
    ∃ generation, generate tree options = .ok generation ∧
      ∃ set, DeclarationSet.ofTree tree = .ok set ∧
        DefinesNames set.deduplicated options generation.code
          (TypesSection.items mapType set.deduplicated)
          (BindingsSection.items mapType options set.deduplicated) :=
  ⟨_, rfl, generate_definesNames rfl⟩

/-- Two operators are declared under one identifier. -/
theorem symbols_operators_not_nodup :
    let plus : FunctionDecl := ⟨"operator+", "void", [], none, false, false⟩
    let minus : FunctionDecl := ⟨"operator-", "void", [], none, false, false⟩
    let tree : List Declaration := [.function plus, .function minus]
    let options : Options := ⟨"NS", "lib", .cdecl⟩
    ∃ set, DeclarationSet.ofTree tree = .ok set ∧
      set.deduplicated.functions = [⟨none, plus⟩, ⟨none, minus⟩] ∧
      ¬((BindingsSection.items mapType options set.deduplicated).map (·.symbol)).Nodup :=
  ⟨_, rfl, by decide, by decide⟩

end ForeignBindings
