import ForeignBindings.Proofs.AddressExposure
import ForeignBindings.Proofs.CallbackSection
import ForeignBindings.Proofs.OriginalSpelling
import ForeignBindings.Proofs.Text.Blank

/-!
# Texts of the input in doc comments

Documentation is cut into lines before it is written, so that no character in it leaves its comment.
The other texts that documentation quotes are written as they stand: the native declaration of a
function, the name of a method, and the native spelling of a field. A line break in one of them
starts a line of its own, and `generate_keepsQuotes` says when that line is still a comment.
-/

namespace ForeignBindings
open Identifier Layout Text

/-! ## Lines of documentation -/

/-- A line of documentation. -/
def IsDocLine (l : String) : Prop := "///".toList <+: l.toList

/-- A line of documentation inside a block. -/
def IsItemDoc (l : String) : Prop := "    ///".toList <+: l.toList

instance (l : String) : Decidable (IsDocLine l) := inferInstanceAs (Decidable (_ <+: _))

instance (l : String) : Decidable (IsItemDoc l) := inferInstanceAs (Decidable (_ <+: _))

theorem IsDocLine.append {l : String} (doc : IsDocLine l) (back : String) :
    IsDocLine (l ++ back) := by
  rw [IsDocLine, String.toList_append]
  exact doc.trans (List.prefix_append _ _)

theorem IsItemDoc.append {l : String} (doc : IsItemDoc l) (back : String) :
    IsItemDoc (l ++ back) := by
  rw [IsItemDoc, String.toList_append]
  exact doc.trans (List.prefix_append _ _)

theorem isItemDoc_indented {l : String} : IsItemDoc ("    " ++ l) ↔ IsDocLine l := by
  rw [IsItemDoc, IsDocLine, String.toList_append]
  exact List.prefix_append_right_inj "    ".toList

theorem prefix_dropReturn {front : String} (plain : Unbroken front) {cs : List Char} :
    front.toList <+: dropReturn cs ↔ front.toList <+: cs := by
  constructor
  · intro starts
    refine starts.trans ?_
    unfold dropReturn
    split
    · exact List.dropLast_prefix cs
    · exact List.prefix_refl cs
  · rintro ⟨rest, rfl⟩
    rw [dropReturn_append fun member => (plain _ member).2 rfl]
    exact List.prefix_append _ _

/-- What a line starts with, the first line that is read back starts with. -/
theorem exists_relaid_of_prefix {front l : String} (plain : Unbroken front)
    (starts : front.toList <+: l.toList) :
    ∃ first, relaid l = first :: continuations l ∧ front.toList <+: first.toList := by
  obtain ⟨rest, whole⟩ := starts
  have split : l = front ++ String.ofList rest := by
    rw [← String.ofList_toList (s := l), ← whole, String.ofList_append, String.ofList_toList]
  obtain ⟨head, relays⟩ := relaid_eq_cons (String.ofList rest)
  refine ⟨front ++ head, ?_, ?_⟩
  · rw [split, relaid_append plain, continuations_append plain, relays, List.modifyHead_cons]
  · rw [String.toList_append]
    exact List.prefix_append _ _

theorem unbroken_docMark : Unbroken "///" := unbroken_ofList rfl

theorem isDocLine_dropReturn {l : String} :
    IsDocLine (String.ofList (dropReturn l.toList)) ↔ IsDocLine l := by
  have chars : (String.ofList (dropReturn l.toList)).toList = dropReturn l.toList :=
    String.toList_ofList
  rw [IsDocLine, IsDocLine, chars, prefix_dropReturn unbroken_docMark]

theorem isDocLine_docLine (line : List Char) : IsDocLine (docLine line) := by
  unfold docLine
  split
  · decide
  · have mark : IsDocLine "/// " := by decide
    exact mark.append _

theorem unbroken_trim {text : String} (plain : Unbroken text) :
    Unbroken (String.ofList (trim text.toList)) := by
  intro c inside
  rw [String.toList_ofList] at inside
  exact plain c (mem_of_mem_trim inside)

theorem noFeed_docLine {line : List Char} (noFeed : '\n' ∉ line) : '\n' ∉ (docLine line).toList := by
  unfold docLine
  split
  · decide
  · have inside : '\n' ∉ trimEnd line := fun feed => noFeed (mem_of_mem_trimEnd feed)
    simp [inside]

theorem isDocLine_of_mem_docLines {documentation : Option String} {text l : String}
    (member : text ∈ docLines documentation) (inText : l ∈ relaid text) : IsDocLine l := by
  cases documentation with
  | none => cases member
  | some given =>
      obtain ⟨line, inLines, rfl⟩ := List.mem_map.mp member
      have noFeed : '\n' ∉ line := by
        have found : String.ofList line ∈ linesOf given := List.mem_map_of_mem inLines
        simpa using noFeed_of_mem_linesOf found
      rw [relaid_of_noFeed (noFeed_docLine noFeed)] at inText
      rw [List.mem_singleton.mp inText, isDocLine_dropReturn]
      exact isDocLine_docLine line

theorem linesOf_unlines_spaced (items : List (List String)) :
    linesOf (unlines (spaced items)) = spaced (items.map fun item => linesOf (unlines item)) := by
  have plain : Unbroken "" := unbroken_ofList rfl
  have blank : relaid "" = [""] := relaid_of_isLine plain.isLine
  simp only [linesOf_unlines, spaced, List.flatMap_assoc, List.flatMap_map, List.flatMap_cons, blank,
    List.singleton_append]

/-! ## Bindings -/

namespace BoundFunction

/-- The lines of a binding's documentation that quote the native declaration. -/
def quotes (f : BoundFunction) : List String :=
  s!"/// Native signature: `{f.nativeSignature}`." :: f.methodRemark

/-- The texts that these lines are made of. -/
def quotedTexts (f : BoundFunction) : List String :=
  f.decl.returnType :: f.decl.name :: (f.owner.map (·.name)).toList ++
    f.decl.parameters.flatMap fun p => [p.name, p.type]

/-- The lines between the opening of a binding's block and its signature, read back. -/
def blockDocs (f : BoundFunction) : List String :=
  (linesOf (unlines (f.bindingDocs mapType))).map fun d =>
    "    " ++ String.ofList (dropReturn d.toList)

theorem isDocLine_of_mem_quotes {f : BoundFunction} {text : String} (member : text ∈ f.quotes) :
    IsDocLine text := by
  rcases List.mem_cons.mp member with rfl | member
  · have mark : IsDocLine "/// Native signature: `" := by decide
    exact (mark.append _).append _
  · unfold methodRemark at member
    split at member
    · cases member
    · have mark : IsDocLine "/// Method `" := by decide
      rw [List.mem_singleton.mp member]
      exact (((((mark.append _).append _).append _).append _).append _).append _

theorem forall_mem_description_iff (f : BoundFunction) :
    (∀ d ∈ linesOf (unlines f.description), IsDocLine d) ↔
      ∀ text ∈ f.quotes, ∀ l ∈ continuations text, IsDocLine l := by
  have separator : ∀ text ∈ (if f.decl.documentation.isSome then ["///"] else []),
      ∀ l ∈ relaid text, IsDocLine l := by
    intro text member l inText
    split at member
    · rw [List.mem_singleton.mp member, relaid_of_isLine unbroken_docMark.isLine] at inText
      rw [List.mem_singleton.mp inText]
      decide
    · cases member
  have whole : f.description = docLines f.decl.documentation ++
      (if f.decl.documentation.isSome then ["///"] else []) ++ f.quotes := by
    simp only [description, quotes, List.append_assoc, List.singleton_append]
  rw [linesOf_unlines, List.forall_mem_flatMap, whole, List.forall_mem_append,
    List.forall_mem_append, and_iff_right ⟨fun text member l => isDocLine_of_mem_docLines member,
      separator⟩]
  refine forall₂_congr fun text member => ?_
  obtain ⟨first, relays, doc⟩ :=
    exists_relaid_of_prefix unbroken_docMark (isDocLine_of_mem_quotes member)
  rw [relays, List.forall_mem_cons]
  exact and_iff_right doc

theorem isDocLine_of_mem_ownershipBlock {f : BoundFunction} {l : String}
    (member : l ∈ f.ownershipBlock) : IsDocLine l := by
  unfold ownershipBlock at member
  split at member
  · cases member
  · simp only [List.mem_cons, List.mem_map] at member
    rcases member with rfl | rfl | ⟨remark, -, rfl⟩
    · decide
    · decide
    · have mark : IsDocLine "/// " := by decide
      exact mark.append remark

theorem forall_mem_blockDocs_iff (f : BoundFunction) :
    (∀ l ∈ f.blockDocs, IsItemDoc l) ↔
      ∀ text ∈ f.quotes, ∀ l ∈ continuations text, IsDocLine l := by
  have docs : linesOf (unlines (f.bindingDocs mapType)) =
      linesOf (unlines f.description) ++ f.ownershipBlock := by
    rw [bindingDocs_eq, linesOf_unlines_append,
      linesOf_unlines_of_isLine fun _ member => isLine_ownershipBlock member]
  simp only [blockDocs, List.forall_mem_map, isItemDoc_indented, isDocLine_dropReturn, docs,
    List.forall_mem_append, forall_mem_description_iff]
  exact and_iff_left fun l => isDocLine_of_mem_ownershipBlock

theorem continuations_of_mem_quotes {f : BoundFunction} (plain : ∀ t ∈ f.quotedTexts, Unbroken t)
    {text : String} (member : text ∈ f.quotes) : continuations text = [] := by
  simp only [quotedTexts, List.forall_mem_append, List.forall_mem_cons, List.forall_mem_flatMap]
    at plain
  obtain ⟨⟨result, name, owner⟩, params⟩ := plain
  apply continuations_of_unbroken
  rcases List.mem_cons.mp member with rfl | member
  · have trimmed := unbroken_trim result
    have listed : Unbroken (commaSeparated (f.decl.parameters.map fun p =>
        if p.name = "" then p.type else p.type ++ " " ++ p.name)) := by
      refine unbroken_commaSeparated (List.forall_mem_map.mpr fun p inParams => ?_)
      obtain ⟨paramName, paramType, -⟩ := params p inParams
      split
      · exact paramType
      · exact (paramType.append (unbroken_ofList rfl)).append paramName
    simp only [nativeSignature, toString_string, unbroken_append_iff, trimmed, name, listed,
      true_and, and_true]
    and_intros <;> exact unbroken_ofList rfl
  · unfold methodRemark at member
    cases found : f.owner with
    | none => simp [found] at member
    | some c =>
        have ownerName : Unbroken c.name := owner c.name (by simp [found])
        have qualifier : Unbroken (if f.decl.isStatic then " (static)" else
            if f.decl.isVirtual then " (virtual)" else "") := by
          repeat' split
          all_goals exact unbroken_ofList rfl
        rw [found] at member
        rw [List.mem_singleton.mp member]
        simp only [toString_string, unbroken_append_iff, ownerName, name, qualifier, and_true]
        and_intros <;> exact unbroken_ofList rfl

end BoundFunction

/-! ### The block of a binding, read back -/

theorem Binding.unbroken_signatureLine {b : Binding} (symbol : Unbroken b.symbol)
    (params : ∀ param ∈ b.params, Unbroken param.render)
    (result : Unbroken (resultSuffix b.result)) : Unbroken b.signatureLine := by
  have list : Unbroken (commaSeparated (b.params.map (·.render))) :=
    unbroken_commaSeparated (List.forall_mem_map.mpr params)
  have keywords : Unbroken "    pub fn " := unbroken_ofList rfl
  have opening : Unbroken "(" := unbroken_ofList rfl
  have closing : Unbroken ")" := unbroken_ofList rfl
  have ending : Unbroken ";" := unbroken_ofList rfl
  exact (((((keywords.append symbol).append opening).append list).append closing).append
    result).append ending

theorem unbroken_externHead {abi : String} (plain : Unbroken abi) :
    Unbroken (externHead abi ++ " \x7b") := by
  have keywords : Unbroken "unsafe extern \"" := unbroken_ofList rfl
  have quote : Unbroken "\"" := unbroken_ofList rfl
  have brace : Unbroken " \x7b" := unbroken_ofList rfl
  exact ((keywords.append plain).append quote).append brace

namespace BoundFunction

theorem unbroken_signatureLine (f : BoundFunction) (options : Options) :
    Unbroken (f.binding mapType options).signatureLine := by
  apply Binding.unbroken_signatureLine
  · have fallback : Unbroken "unnamed" := unbroken_ofList rfl
    exact unbroken_ident fallback
  · intro param member
    obtain ⟨⟨name, mapping⟩, crossing, rfl⟩ := List.mem_map.mp member
    have type : Unbroken mapping.paramAbi := by
      have mapped : mapping ∈ (f.nativeParams mapType).map (·.2) := List.mem_map_of_mem crossing
      rw [map_snd_nativeParams] at mapped
      obtain ⟨type, -, rfl⟩ := List.mem_map.mp mapped
      exact unbroken_paramAbi_mapType type
    have name : Unbroken name := by
      rw [nativeParams_eq_crossings] at crossing
      exact unbroken_of_isIdentChar (mem_crossings crossing)
    have colon : Unbroken ": " := unbroken_ofList rfl
    exact (name.append colon).append type
  · rw [result_binding, nativeResult]
    split
    · exact unbroken_ofList rfl
    · have arrow : Unbroken " -> " := unbroken_ofList rfl
      exact arrow.append (unbroken_abiName_mapType _)

theorem linesOf_binding (f : BoundFunction) (options : Options) :
    linesOf (unlines (f.binding mapType options).lines) =
      relaid (linkAttribute options.library) ++ [externHead options.convention.abi ++ " \x7b"] ++
        f.blockDocs ++ [(f.binding mapType options).signatureLine, "\x7d"] := by
  have head := unbroken_externHead options.convention.unbroken_abi
  have docs : (((linesOf (unlines (f.bindingDocs mapType))).map ("    " ++ ·)).flatMap relaid) =
      f.blockDocs := by
    rw [blockDocs, List.flatMap_map, List.map_eq_flatMap]
    refine List.flatMap_congr fun d member => ?_
    rw [relaid_append (unbroken_ofList rfl), relaid_of_noFeed (noFeed_of_mem_linesOf member)]
    rfl
  have last := relaid_of_isLine (f.unbroken_signatureLine options).isLine
  have closing : relaid "\x7d" = ["\x7d"] := relaid_of_isLine (unbroken_ofList rfl).isLine
  have lines : (f.binding mapType options).lines =
      [linkAttribute options.library, externHead options.convention.abi ++ " \x7b"] ++
        (linesOf (unlines (f.bindingDocs mapType))).map ("    " ++ ·) ++
        [(f.binding mapType options).signatureLine, "\x7d"] := rfl
  rw [linesOf_unlines, lines, List.flatMap_append, List.flatMap_append, docs]
  simp only [List.flatMap_cons, List.flatMap_nil, relaid_of_isLine head.isLine, last, closing,
    List.append_assoc, List.append_nil, List.singleton_append]

end BoundFunction

/-- The block of a binding, and when a text of the input leaves the comments in it. -/
structure BoundFunction.KeepsDocs (f : BoundFunction) (options : Options) : Prop where
  lines : linesOf (unlines (f.binding mapType options).lines) =
    relaid (linkAttribute options.library) ++ [externHead options.convention.abi ++ " \x7b"] ++
      f.blockDocs ++ [(f.binding mapType options).signatureLine, "\x7d"]
  kept : (∀ l ∈ f.blockDocs, IsItemDoc l) ↔
    ∀ text ∈ f.quotes, ∀ l ∈ continuations text, IsDocLine l
  oneLine : (∀ text ∈ f.quotedTexts, Unbroken text) → ∀ l ∈ f.blockDocs, IsItemDoc l

theorem BoundFunction.keepsDocs (f : BoundFunction) (options : Options) : f.KeepsDocs options where
  lines := f.linesOf_binding options
  kept := f.forall_mem_blockDocs_iff
  oneLine := by
    intro plain
    refine f.forall_mem_blockDocs_iff.mpr fun text member l continued => ?_
    rw [continuations_of_mem_quotes plain member] at continued
    cases continued

/-! ## Records -/

/-- The line that declares a field. -/
def RecordField.declaration (field : RecordField) : String :=
  "    " ++ s!"pub {field.name}: {field.type},"

theorem RecordField.unbroken_declaration {field : RecordField} (name : Unbroken field.name)
    (type : Unbroken field.type) : Unbroken field.declaration := by
  have indentation : Unbroken "    " := unbroken_ofList rfl
  have colon : Unbroken ": " := unbroken_ofList rfl
  have comma : Unbroken "," := unbroken_ofList rfl
  have keyword : Unbroken "pub " := unbroken_ofList rfl
  exact indentation.append ((((keyword.append name).append colon).append type).append comma)

/-- The comment that quotes the native spelling of a field's type. -/
def RecordField.quote (native : String) : String := "    " ++ s!"/// Native type `{native}`."

theorem RecordField.unbroken_quote {native : String} (plain : Unbroken native) :
    Unbroken (quote native) := by
  have indentation : Unbroken "    " := unbroken_ofList rfl
  have opening : Unbroken "/// Native type `" := unbroken_ofList rfl
  have closing : Unbroken "`." := unbroken_ofList rfl
  exact indentation.append ((opening.append plain).append closing)

theorem RecordField.isItemDoc_quote (native : String) : IsItemDoc (quote native) := by
  have mark : IsDocLine "/// Native type `" := by decide
  exact isItemDoc_indented.mpr ((mark.append native).append "`.")

namespace RecordItem

/-- The lines between the head of a record and its closing brace, read back. -/
def bodyLines (item : RecordItem) : List String :=
  item.fields.flatMap fun field =>
    field.native.toList.flatMap (fun native => relaid (RecordField.quote native)) ++
      [field.declaration]

/-- A line declares a field of a record. -/
def Declares (item : RecordItem) (l : String) : Prop := ∃ field ∈ item.fields, l = field.declaration

theorem forall_mem_bodyLines_iff (item : RecordItem) :
    (∀ l ∈ item.bodyLines, IsItemDoc l ∨ item.Declares l) ↔
      ∀ field ∈ item.fields, ∀ native ∈ field.native, ∀ l ∈ continuations (RecordField.quote native),
        IsItemDoc l ∨ item.Declares l := by
  simp only [bodyLines, List.forall_mem_flatMap, List.forall_mem_append, List.forall_mem_singleton,
    Option.mem_toList]
  refine forall₂_congr fun field member => ?_
  have declared : IsItemDoc field.declaration ∨ item.Declares field.declaration :=
    .inr ⟨field, member, rfl⟩
  rw [and_iff_left declared]
  refine forall₂_congr fun native _ => ?_
  obtain ⟨first, relays, doc⟩ :=
    exists_relaid_of_prefix (unbroken_ofList rfl) (RecordField.isItemDoc_quote native)
  rw [relays, List.forall_mem_cons]
  exact and_iff_right (.inl doc)

/-- The names and the types of a record's fields are on one line. -/
structure IsPlain (item : RecordItem) : Prop where
  name : Unbroken item.name
  fields : ∀ field ∈ item.fields, Unbroken field.declaration

theorem relaid_lines {field : RecordField} (plain : Unbroken field.declaration) :
    (indent field.lines).flatMap relaid =
      field.native.toList.flatMap (fun native => relaid (RecordField.quote native)) ++
        [field.declaration] := by
  have nonempty : ∀ l ∈ field.lines, l ≠ "" := by
    intro l member empty
    have noText := congrArg String.toList empty
    unfold RecordField.lines at member
    cases found : field.native with
    | none =>
        rw [found] at member
        rw [List.mem_singleton.mp member] at noText
        simp at noText
    | some native =>
        rw [found] at member
        rcases List.mem_cons.mp member with rfl | member
        · simp at noText
        · rw [List.mem_singleton.mp member] at noText
          simp at noText
  have declared := relaid_of_isLine plain.isLine
  rw [BoundFunction.indent_eq_map nonempty, RecordField.lines]
  cases field.native with
  | none => simpa [RecordField.declaration] using declared
  | some native => simpa [RecordField.declaration, RecordField.quote] using declared

theorem linesOf_lines {item : RecordItem} (plain : item.IsPlain) :
    linesOf (unlines item.lines) =
      (docLines item.documentation).flatMap relaid ++
        ["#[repr(C)]", "#[derive(Debug, Clone, Copy)]", s!"pub struct {item.name}" ++ " \x7b"] ++
        item.bodyLines ++ ["\x7d"] := by
  have keywords : Unbroken "pub struct " := unbroken_ofList rfl
  have brace : Unbroken " \x7b" := unbroken_ofList rfl
  have head : Unbroken (s!"pub struct {item.name}" ++ " \x7b") :=
    (keywords.append plain.name).append brace
  have layout : relaid "#[repr(C)]" = ["#[repr(C)]"] :=
    relaid_of_isLine (unbroken_ofList rfl).isLine
  have derived : relaid "#[derive(Debug, Clone, Copy)]" = ["#[derive(Debug, Clone, Copy)]"] :=
    relaid_of_isLine (unbroken_ofList rfl).isLine
  have closing : relaid "\x7d" = ["\x7d"] := relaid_of_isLine (unbroken_ofList rfl).isLine
  have body : (indent (item.fields.flatMap (·.lines))).flatMap relaid = item.bodyLines := by
    rw [indent, List.map_flatMap, List.flatMap_assoc]
    exact List.flatMap_congr fun field member => relaid_lines (plain.fields field member)
  have opening := relaid_of_isLine head.isLine
  rw [linesOf_unlines, lines, block, List.flatMap_append, List.flatMap_append]
  simp only [List.flatMap_cons, List.flatMap_nil, List.cons_append, List.flatMap_append, layout,
    derived, opening, body, closing, List.append_assoc, List.append_nil, List.nil_append]

theorem isPlain_item {documentation : Option String} {name fallback : String} {fields : List Field}
    (plain : Unbroken fallback) :
    IsPlain ⟨documentation, ident name fallback, recordFields mapType fields⟩ where
  name := unbroken_ident plain
  fields := by
    intro field member
    obtain ⟨i, declared, rfl⟩ := List.mem_mapIdx.mp member
    have position : Unbroken s!"field{i}" := .append (unbroken_ofList rfl) (unbroken_toString i)
    apply RecordField.unbroken_declaration <;> dsimp only
    · exact unbroken_ident position
    · exact unbroken_abiName_mapType (fields[i]).type

/-- The comment over a field that is an address quotes its type as it was trimmed. -/
theorem natives_recordFields (fields : List Field) :
    (recordFields mapType fields).map (·.native) = fields.map fun field =>
      if (mapType field.type).isPointer then some (String.ofList (trim field.type.toList))
      else none := by
  apply List.ext_getElem?
  intro i
  simp only [recordFields, List.getElem?_map, List.getElem?_mapIdx, Option.map_map]
  cases fields[i]? with
  | none => simp only [Option.map_none]
  | some field =>
      simp only [Option.map_some, Function.comp_apply]
      cases address : (mapType field.type).isPointer with
      | true => simp [spelling_mapType address]
      | false => simp

theorem forall_mem_native_iff {fields : List Field} {p : String → Prop} :
    (∀ field ∈ recordFields mapType fields, ∀ native ∈ field.native, p native) ↔
      ∀ field ∈ fields, (mapType field.type).isPointer →
        p (String.ofList (trim field.type.toList)) := by
  have natives : (∀ field ∈ recordFields mapType fields, ∀ native ∈ field.native, p native) ↔
      ∀ quoted ∈ (recordFields mapType fields).map (·.native), ∀ native ∈ quoted, p native := by
    rw [List.forall_mem_map]
  rw [natives, natives_recordFields, List.forall_mem_map]
  refine forall₂_congr fun field _ => ?_
  cases (mapType field.type).isPointer <;> simp

/-- The lines of a record, and when a text of the input leaves its comments. -/
structure KeepsDocs (item : RecordItem) (fields : List Field) : Prop where
  lines : ∃ docs, (∀ l ∈ docs, IsDocLine l) ∧
    linesOf (unlines item.lines) = docs ++
      ["#[repr(C)]", "#[derive(Debug, Clone, Copy)]", s!"pub struct {item.name}" ++ " \x7b"] ++
      item.bodyLines ++ ["\x7d"]
  kept : (∀ l ∈ item.bodyLines, IsItemDoc l ∨ item.Declares l) ↔
    ∀ field ∈ fields, (mapType field.type).isPointer →
      ∀ l ∈ continuations (RecordField.quote (String.ofList (trim field.type.toList))),
        IsItemDoc l ∨ item.Declares l
  oneLine : (∀ field ∈ fields, Unbroken field.type) →
    ∀ l ∈ item.bodyLines, IsItemDoc l ∨ item.Declares l

theorem keepsDocs_item (documentation : Option String) {name fallback : String}
    (fields : List Field) (plain : Unbroken fallback) :
    KeepsDocs ⟨documentation, ident name fallback, recordFields mapType fields⟩ fields := by
  have kept := (forall_mem_bodyLines_iff ⟨documentation, ident name fallback,
    recordFields mapType fields⟩).trans forall_mem_native_iff
  refine ⟨⟨_, ?_, linesOf_lines (isPlain_item plain)⟩, kept, fun unbroken => kept.mpr ?_⟩
  · intro l member
    obtain ⟨text, inDocs, inText⟩ := List.mem_flatMap.mp member
    exact isDocLine_of_mem_docLines inDocs inText
  · intro field member _ l continued
    have quoted : Unbroken (RecordField.quote (String.ofList (trim field.type.toList))) :=
      RecordField.unbroken_quote (unbroken_trim (unbroken field member))
    rw [continuations_of_unbroken quoted] at continued
    cases continued

end RecordItem

/-! ## Every comment of a generation -/

/-- What the blocks of the bindings section and the records of the types section say in comments,
and when a text of the input leaves them. -/
structure KeepsQuotes (set : DeclarationSet) (options : Options) (code : GeneratedCode) : Prop where
  bindings : ∃ text, code.content? .bindings = some text ∧
    linesOf text = linesOf (unlines (SectionKind.bindings.header options)) ++
      "use super::types::*;" ::
        spaced (set.functions.map fun f => linesOf (unlines (f.binding mapType options).lines))
  functions : ∀ f ∈ set.functions, f.KeepsDocs options
  types : ∃ text, code.content? .types = some text ∧
    linesOf text = linesOf (unlines (SectionKind.types.header options ++ TypesSection.preamble)) ++
      spaced ((TypesSection.items mapType set).map fun item => linesOf (unlines item.lines))
  structs : ∀ s ∈ set.structs, (s.item mapType).KeepsDocs s.fields
  classes : ∀ c ∈ set.classes, (c.item mapType).KeepsDocs c.fields

theorem linesOf_bindings (set : DeclarationSet) (options : Options) :
    linesOf (unlines (BindingsSection.lines mapType options set)) = "use super::types::*;" ::
      spaced (set.functions.map fun f => linesOf (unlines (f.binding mapType options).lines)) := by
  have opening : Unbroken "use super::types::*;" := unbroken_ofList rfl
  rw [BindingsSection.lines, linesOf_unlines, List.flatMap_cons, relaid_of_isLine opening.isLine,
    ← linesOf_unlines, linesOf_unlines_spaced, BindingsSection.items, List.map_map, List.map_map,
    List.singleton_append]
  simp only [Function.comp_def]

theorem linesOf_types (set : DeclarationSet) :
    linesOf (unlines (TypesSection.lines mapType set)) = linesOf (unlines TypesSection.preamble) ++
      spaced ((TypesSection.items mapType set).map fun item => linesOf (unlines item.lines)) := by
  rw [TypesSection.lines, linesOf_unlines_append, linesOf_unlines_spaced, List.map_map]
  simp only [Function.comp_def]

/-- Documentation never leaves its comments. A text that is quoted, which the type or the name of a
parameter is, leaves its comment exactly when a line that continues it is no comment itself. -/
theorem generate_keepsQuotes {tree : List Declaration} {options : Options} {generation : Generation}
    (h : generate tree options = .ok generation) :
    ∃ set, DeclarationSet.ofTree tree = .ok set ∧
      KeepsQuotes set.deduplicated options generation.code := by
  obtain ⟨set, flat, content⟩ := content_generate h
  have unnamed : Unbroken "Unnamed" := unbroken_ofList rfl
  refine ⟨set, flat, ⟨_, content .bindings, ?_⟩, fun f _ => f.keepsDocs options,
    ⟨_, content .types, ?_⟩, ?_, ?_⟩
  · have text : sectionText options set.deduplicated .bindings =
        SectionKind.bindings.header options ++
          BindingsSection.lines mapType options set.deduplicated := rfl
    rw [text, linesOf_unlines_append, linesOf_bindings]
  · have text : sectionText options set.deduplicated .types =
        SectionKind.types.header options ++ TypesSection.lines mapType set.deduplicated := rfl
    rw [text, linesOf_unlines_append, linesOf_types, linesOf_unlines_append, List.append_assoc]
  · exact fun s _ => RecordItem.keepsDocs_item s.documentation s.fields unnamed
  · exact fun c _ => RecordItem.keepsDocs_item _ c.fields unnamed

/-- Documentation with a line break and a quoted pointer stay in their comments. -/
theorem generate_keepsQuotes_scan :
    let scan : FunctionDecl :=
      ⟨"scan", "void", [⟨"text", "const char*"⟩], some "Reads\na text.", false, false⟩
    let node : StructDecl := ⟨"Node", [⟨"next", "Node*"⟩], none⟩
    let tree : List Declaration := [.struct node, .function scan]
    let options : Options := ⟨"NS", "lib", .cdecl⟩
    ∃ generation, generate tree options = .ok generation ∧
      ∃ set, DeclarationSet.ofTree tree = .ok set ∧
        KeepsQuotes set.deduplicated options generation.code :=
  ⟨_, rfl, generate_keepsQuotes rfl⟩

/-- A line break in the type of a parameter ends its comment. -/
theorem generate_skip_leavesComment :
    let skip : FunctionDecl :=
      ⟨"skip", "void", [⟨"count", "unsigned\nint"⟩], none, false, false⟩
    let options : Options := ⟨"NS", "lib", .cdecl⟩
    ∃ generation text, generate [.function skip] options = .ok generation ∧
      generation.code.content? .bindings = some text ∧
      linesOf text = linesOf (unlines (SectionKind.bindings.header options)) ++
        ["use super::types::*;", "", "#[link(name = \"lib\")]", "unsafe extern \"C\" \x7b",
          "    /// Native signature: `void skip(unsigned", "    int count)`.",
          "    pub fn skip(count: u32);", "\x7d"] ∧
      ¬IsItemDoc "    int count)`." := by
  intro skip options
  let set : DeclarationSet := ⟨[⟨none, skip⟩], [], [], [], []⟩
  have functions : set.deduplicated.functions = [⟨none, skip⟩] := by decide
  have block : linesOf (unlines (BoundFunction.binding mapType options ⟨none, skip⟩).lines) =
      ["#[link(name = \"lib\")]", "unsafe extern \"C\" \x7b",
        "    /// Native signature: `void skip(unsigned", "    int count)`.",
        "    pub fn skip(count: u32);", "\x7d"] := by decide +kernel
  have text : sectionText options set.deduplicated .bindings =
      SectionKind.bindings.header options ++
        BindingsSection.lines mapType options set.deduplicated := rfl
  refine ⟨_, _, rfl, content_generateFrom set.deduplicated options .bindings, ?_, by decide⟩
  rw [text, linesOf_unlines_append, linesOf_bindings, functions, List.map_singleton, block]
  rfl

end ForeignBindings
