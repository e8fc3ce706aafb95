import ForeignBindings.Proofs.Deduplication
import ForeignBindings.Proofs.Generation
import ForeignBindings.Proofs.Identifier
import ForeignBindings.Proofs.Text.Lines

/-!
# A wrapper calls its binding

The raw binding of a function, what its documentation says about strings, and the wrapper around it
are written by three emitters, each of which walks through the parameters on its own. `CallsAgree`
says that they stay in step, on the emitted items and on their lines; `generate_emitsAgreeingCalls`
is the statement for the two sections of a generated module.

The invariant behind it is one about a single parameter (`paramAgrees_of_mapping`): a mapping that is
copied from a string is a pointer to constant characters, and every other one has the same type on
both sides.
-/

namespace ForeignBindings
open Identifier Layout Text

/-! ## Statement -/

/-- Three lists of one length whose entries are related place by place. -/
inductive Aligned {α β γ : Type} (R : α → β → γ → Prop) : List α → List β → List γ → Prop
  | nil : Aligned R [] [] []
  | cons {x y z xs ys zs} : R x y z → Aligned R xs ys zs → Aligned R (x :: xs) (y :: ys) (z :: zs)

/-- A string that the callee only reads. -/
def TypeMapping.IsConstString (m : TypeMapping) : Prop :=
  m.isConst = true ∧ m.marshalHint = some .ownedString

instance (m : TypeMapping) : Decidable m.IsConstString := inferInstanceAs (Decidable (_ ∧ _))

/-- How a parameter with a name and a mapping is taken by a binding and by its wrapper. -/
inductive ParamAgrees : String × TypeMapping → NativeParam → WrapperParam → Prop
  | passed {name mapping type w} : ¬mapping.IsConstString → w.name = name → w.type = type →
      w.argument = name → ParamAgrees (name, mapping) ⟨name, type⟩ w
  | copied {name mapping w} : mapping.IsConstString → w.name = name → w.type = "&str" →
      w.argument = name ++ ".as_ptr()" →
      ParamAgrees (name, mapping) ⟨name, "*const ::core::ffi::c_char"⟩ w

/-- How a result with a mapping is returned by a binding and by its wrapper. -/
inductive ResultAgrees (mapping : TypeMapping) : Option String → Option String → Prop
  | same {result} : mapping.marshalHint ≠ some .ownedString → ResultAgrees mapping result result
  | copied : mapping.marshalHint = some .ownedString →
      ResultAgrees mapping (some (pointerTo mapping.isConst "::core::ffi::c_char")) (some "String")

namespace BoundFunction

/-- The parameters of a function by name, the instance of a method first. -/
def crossings (f : BoundFunction) : List (String × TypeMapping) :=
  (if f.owner.isSome ∧ f.decl.isStatic = false then [("self_", .plain "void*" false .handle)]
    else []) ++
    f.decl.parameters.mapIdx fun i p => (ident p.name s!"arg{i}", mapType p.type)

/-- What the documentation says about the string of a parameter. -/
def stringRemark (name : String) (isConst : Bool) : String :=
  if isConst then
    s!"`{name}` must stay alive and NUL-terminated for the duration of the call."
  else
    s!"`{name}` may be written by the callee; the buffer must stay valid for the " ++
      "duration of the call."

def returnRemark : String :=
  "The returned string belongs to the native side; copy it before the native side " ++
    "invalidates it."

/-- The remarks about ownership: one for each string parameter, in order, and one for a string that
is returned. -/
def ownershipRemarks (f : BoundFunction) : List String :=
  ((f.crossings.filter (·.2.marshalHint = some .ownedString)).map fun (name, mapping) =>
      stringRemark name mapping.isConst) ++
    if (mapType f.decl.returnType).marshalHint = some .ownedString then [returnRemark] else []

/-- The lines about ownership, under their heading, if there are any. -/
def ownershipBlock (f : BoundFunction) : List String :=
  if f.ownershipRemarks = [] then []
  else "///" :: "/// # Ownership" :: f.ownershipRemarks.map ("/// " ++ ·)

/-- What the documentation of a binding says about the function itself. -/
def description (f : BoundFunction) : List String :=
  docLines f.decl.documentation ++ (if f.decl.documentation.isSome then ["///"] else []) ++
    [s!"/// Native signature: `{f.nativeSignature}`."] ++ f.methodRemark

/-- The statements by which a wrapper copies its strings, in the order of the parameters. -/
def copyStatements (f : BoundFunction) : List String :=
  (f.crossings.filter fun (_, mapping) => mapping.IsConstString).map fun (name, _) =>
    s!"let {name} = to_native_string({name});"

/-- The expression by which a wrapper calls its binding. -/
def callExpression (f : BoundFunction) (w : CallThrough) : String :=
  let call := s!"bindings::{w.symbol}({commaSeparated (w.params.map (·.argument))})"
  if (mapType f.decl.returnType).marshalHint = some .ownedString then
    s!"unsafe \x7b from_native_string({call}) \x7d"
  else s!"unsafe \x7b {call} \x7d"

end BoundFunction

def Binding.signatureLine (b : Binding) : String :=
  let params := commaSeparated (b.params.map fun p => s!"{p.name}: {p.type}")
  s!"    pub fn {b.symbol}({params}){resultSuffix b.result};"

def CallThrough.signatureLine (w : CallThrough) : String :=
  let unsafety := if w.isUnsafe then "unsafe " else ""
  let params := commaSeparated (w.params.map fun p => s!"{p.name}: {p.type}")
  s!"pub {unsafety}fn {w.symbol}({params}){resultSuffix w.wrappedResult}" ++ " \x7b"

/-- The raw binding `b` and the wrapper `w` of `f` agree. -/
structure CallsAgree (f : BoundFunction) (b : Binding) (w : CallThrough) : Prop where
  bindingSymbol : b.symbol = ident f.symbol "unnamed"
  wrapperSymbol : w.symbol = ident f.symbol "unnamed"
  params : Aligned ParamAgrees f.crossings b.params w.params
  result : ResultAgrees (mapType f.decl.returnType) b.result w.wrappedResult
  bindingLines : b.lines =
    [linkAttribute b.library, externHead b.abi ++ " \x7b"] ++
      (linesOf (unlines f.description) ++ f.ownershipBlock).map ("    " ++ ·) ++
      [b.signatureLine, "\x7d"]
  wrapperLines : w.lines =
    w.documentation ++ [w.signatureLine] ++
      (f.copyStatements ++ [f.callExpression w]).map ("    " ++ ·) ++
      ["\x7d"]

/-- Every function of a tree is emitted once as a binding and once as a wrapper, in one order, and
the two agree. -/
def EmitsAgreeingCalls (tree : List Declaration) (options : Options) (code : GeneratedCode) : Prop :=
  ∃ set bindings wrappers, ∃ owners : List OwnerItem,
    DeclarationSet.ofTree tree = .ok set ∧
    set.deduplicated.symbols.Nodup ∧
    code.content? .bindings = some (unlines (SectionKind.bindings.header options ++
      "use super::types::*;" :: spaced (bindings.map Binding.lines))) ∧
    code.content? .wrappers = some (unlines (SectionKind.wrappers.header options ++
      (WrappersSection.preamble ++ spaced (wrappers.map CallThrough.lines) ++
        spaced (owners.map OwnerItem.lines)))) ∧
    Aligned CallsAgree set.deduplicated.functions bindings wrappers

/-! ## One parameter, one result -/

theorem Aligned.map {α β γ : Type} {R : α → β → γ → Prop} {g : α → β} {h : α → γ} {xs : List α}
    (related : ∀ x ∈ xs, R x (g x) (h x)) : Aligned R xs (xs.map g) (xs.map h) := by
  induction xs with
  | nil => exact .nil
  | cons x xs ih =>
      exact .cons (related x List.mem_cons_self) (ih fun y member =>
        related y (List.mem_cons_of_mem x member))

theorem TypeMapping.isCopied_eq_true {m : TypeMapping} : m.isCopied = true ↔ m.IsConstString := by
  simp [isCopied, IsConstString, and_comm]

theorem TypeMapping.eq_characters {m : TypeMapping} (string : m.marshalHint = some .ownedString) :
    ∃ spelling isConst, m = .plain spelling isConst .characters := by
  cases m with
  | plain spelling isConst form =>
      cases form with
      | characters => exact ⟨spelling, isConst, rfl⟩
      | scalar name => simp [marshalHint, Form.marshalHint] at string
      | handle => simp [marshalHint, Form.marshalHint] at string
      | pointer pointee extra => simp [marshalHint, Form.marshalHint] at string
      | named name => simp [marshalHint, Form.marshalHint] at string
  | array spelling length element => simp [marshalHint] at string

theorem paramAgrees_of_mapping (name : String) (m : TypeMapping) :
    ParamAgrees (name, m) ⟨name, m.paramAbi⟩ (BoundFunction.wrapperParam name m) := by
  unfold BoundFunction.wrapperParam
  by_cases string : m.IsConstString
  · rw [if_pos (TypeMapping.isCopied_eq_true.mpr string)]
    have abi : m.paramAbi = "*const ::core::ffi::c_char" := by
      obtain ⟨spelling, isConst, rfl⟩ := TypeMapping.eq_characters string.2
      obtain rfl : isConst = true := string.1
      rfl
    rw [abi]
    exact .copied string rfl rfl rfl
  · rw [if_neg fun copied => string (TypeMapping.isCopied_eq_true.mp copied)]
    exact .passed string rfl rfl rfl

theorem result_binding (map : String → TypeMapping) (f : BoundFunction) (options : Options) :
    (f.binding map options).result = f.nativeResult map := rfl

theorem resultAgrees_of_mapping (f : BoundFunction) (options : Options) :
    ResultAgrees (mapType f.decl.returnType) (f.binding mapType options).result
      (f.callThrough mapType).wrappedResult := by
  rw [result_binding]
  by_cases string : (mapType f.decl.returnType).marshalHint = some .ownedString
  · have wrapped : (f.callThrough mapType).wrappedResult = some "String" := by
      simp [CallThrough.wrappedResult, BoundFunction.callThrough, string]
    have native : f.nativeResult mapType =
        some (pointerTo (mapType f.decl.returnType).isConst "::core::ffi::c_char") := by
      obtain ⟨spelling, isConst, characters⟩ := TypeMapping.eq_characters string
      unfold BoundFunction.nativeResult
      rw [characters]
      rfl
    rw [wrapped, native]
    exact .copied string
  · have wrapped : (f.callThrough mapType).wrappedResult = f.nativeResult mapType := by
      simp [CallThrough.wrappedResult, BoundFunction.callThrough, string]
    rw [wrapped]
    exact .same string

namespace BoundFunction

/-! ## Parameters of a function -/

theorem mapType_selfType : mapType selfType = .plain "void*" false .handle := by decide

theorem nativeParams_eq_crossings (f : BoundFunction) : f.nativeParams mapType = f.crossings := by
  unfold nativeParams crossings declaredParams takesSelf
  rw [mapType_selfType]
  congr 1
  simp [Bool.and_eq_true]

theorem mem_crossings {f : BoundFunction} {param : String × TypeMapping}
    (member : param ∈ f.crossings) : ∀ c ∈ param.1.toList, IsIdentChar c := by
  rw [crossings, List.mem_append] at member
  rcases member with receiver | declared
  · split at receiver
    · obtain rfl := List.mem_singleton.mp receiver
      have receiverName : IsWord "self_" := isWord_ofList rfl
      exact receiverName.isIdentChar
    · cases receiver
  · obtain ⟨i, _, rfl⟩ := List.mem_mapIdx.mp declared
    have stem : IsWord "arg" := isWord_ofList rfl
    exact fun c => mem_ident (stem.append (isWord_toString i)).isIdentChar

/-! ## Documentation -/

/-- The remarks that a walk through some parameters makes. -/
theorem filterMap_paramContract (params : List (String × TypeMapping)) :
    params.filterMap (fun (name, mapping) => paramContract name mapping) =
      (params.filter (·.2.marshalHint = some .ownedString)).map fun (name, mapping) =>
        stringRemark name mapping.isConst := by
  induction params with
  | nil => rfl
  | cons param params ih =>
      obtain ⟨name, mapping⟩ := param
      by_cases string : mapping.marshalHint = some .ownedString
      · have remark : paramContract name mapping = some (stringRemark name mapping.isConst) := by
          rw [paramContract, if_pos string]
          rfl
        simp only [List.filterMap_cons, remark, ih, string, List.filter_cons, decide_true, if_true,
          List.map_cons]
      · have silent : paramContract name mapping = none := by rw [paramContract, if_neg string]
        simp only [List.filterMap_cons, silent, ih, string, List.filter_cons, decide_false,
          Bool.false_eq_true, if_false]

theorem contractLines_eq_ownershipRemarks (f : BoundFunction) :
    f.contractLines mapType = f.ownershipRemarks := by
  have declared : f.crossings.filter (·.2.marshalHint = some .ownedString) =
      (f.declaredParams mapType).filter (·.2.marshalHint = some .ownedString) := by
    rw [crossings, List.filter_append]
    -- The instance is a handle, about which there is nothing to say.
    have receiver : (if f.owner.isSome ∧ f.decl.isStatic = false then
        [("self_", TypeMapping.plain "void*" false .handle)] else []).filter
          (·.2.marshalHint = some .ownedString) = [] := by
      split <;> rfl
    rw [receiver]
    rfl
  have returned (mapping : TypeMapping) : (resultContract mapping).toList =
      if mapping.marshalHint = some .ownedString then [returnRemark] else [] := by
    unfold resultContract
    split <;> rfl
  rw [contractLines, ownershipRemarks, filterMap_paramContract, declared, returned]

theorem bindingDocs_eq (f : BoundFunction) :
    f.bindingDocs mapType = f.description ++ f.ownershipBlock := by
  unfold bindingDocs description ownershipBlock
  rw [contractLines_eq_ownershipRemarks]
  cases f.ownershipRemarks <;> simp

theorem unbroken_stringRemark {name : String} (plain : ∀ c ∈ name.toList, IsIdentChar c)
    (isConst : Bool) : Unbroken (stringRemark name isConst) := by
  have quoted : Unbroken ("`" ++ name) :=
    .append (unbroken_ofList rfl) (unbroken_of_isIdentChar plain)
  cases isConst with
  | true => exact quoted.append (unbroken_ofList rfl)
  | false => exact (quoted.append (unbroken_ofList rfl)).append (unbroken_ofList rfl)

theorem unbroken_ownershipRemarks {f : BoundFunction} {remark : String}
    (member : remark ∈ f.ownershipRemarks) : Unbroken remark := by
  rw [ownershipRemarks, List.mem_append, List.mem_map] at member
  rcases member with ⟨param, crossing, rfl⟩ | returned
  · exact unbroken_stringRemark (mem_crossings (List.mem_of_mem_filter crossing)) _
  · split at returned
    · obtain rfl := List.mem_singleton.mp returned
      exact Unbroken.append (unbroken_ofList rfl) (unbroken_ofList rfl)
    · cases returned

theorem isLine_ownershipBlock {f : BoundFunction} {line : String} (member : line ∈ f.ownershipBlock) :
    IsLine line := by
  unfold ownershipBlock at member
  split at member
  · cases member
  · simp only [List.mem_cons, List.mem_map] at member
    rcases member with rfl | rfl | ⟨remark, remarks, rfl⟩
    · exact (unbroken_ofList rfl).isLine
    · exact (unbroken_ofList rfl).isLine
    · exact ((unbroken_ofList rfl).append (unbroken_ownershipRemarks remarks)).isLine

/-! ## Lines -/

theorem lines_binding (f : BoundFunction) (options : Options) :
    (f.binding mapType options).lines =
      [linkAttribute options.library, externHead options.convention.abi ++ " \x7b"] ++
        (linesOf (unlines f.description) ++ f.ownershipBlock).map ("    " ++ ·) ++
        [(f.binding mapType options).signatureLine, "\x7d"] := by
  have docs : linesOf (unlines (f.bindingDocs mapType)) =
      linesOf (unlines f.description) ++ f.ownershipBlock := by
    rw [bindingDocs_eq, linesOf_unlines_append,
      linesOf_unlines_of_isLine fun _ member => isLine_ownershipBlock member]
  rw [← docs]
  rfl

theorem params_binding (f : BoundFunction) (options : Options) :
    (f.binding mapType options).params =
      f.crossings.map fun (name, mapping) => ⟨name, mapping.paramAbi⟩ := by
  rw [← nativeParams_eq_crossings]
  rfl

theorem params_callThrough (f : BoundFunction) : (f.callThrough mapType).params =
    f.crossings.map fun (name, mapping) => wrapperParam name mapping := by
  rw [← nativeParams_eq_crossings]
  rfl

/-- The copies that a wrapper makes before the call. -/
theorem copies_callThrough (f : BoundFunction) :
    ((f.callThrough mapType).params.filter (·.isCopied)).map (fun p =>
        s!"let {p.name} = to_native_string({p.name});") = f.copyStatements := by
  rw [params_callThrough, copyStatements]
  induction f.crossings with
  | nil => rfl
  | cons param rest ih =>
      obtain ⟨name, mapping⟩ := param
      by_cases string : mapping.IsConstString
      · have copied : wrapperParam name mapping = ⟨name, "&str", true⟩ :=
          if_pos (TypeMapping.isCopied_eq_true.mpr string)
        simp only [List.map_cons, copied, List.filter_cons, if_true, string, decide_true, ih]
      · have passed : wrapperParam name mapping = ⟨name, mapping.paramAbi, false⟩ :=
          if_neg fun copied => string (TypeMapping.isCopied_eq_true.mp copied)
        simp only [List.map_cons, passed, List.filter_cons, Bool.false_eq_true, if_false, string,
          decide_false, ih]

theorem indent_eq_map {ls : List String} (nonempty : ∀ l ∈ ls, l ≠ "") :
    indent ls = ls.map ("    " ++ ·) :=
  List.map_congr_left fun l member => if_neg (nonempty l member)

theorem body_ne_empty {f : BoundFunction} {w : CallThrough} {l : String}
    (member : l ∈ f.copyStatements ++ [f.callExpression w]) : l ≠ "" := by
  intro empty
  have noText := congrArg String.toList empty
  rw [List.mem_append, List.mem_singleton] at member
  rcases member with copy | rfl
  · obtain ⟨param, -, rfl⟩ := List.mem_map.mp copy
    simp at noText
  · unfold callExpression at noText
    split at noText <;> simp at noText

theorem lines_callThrough (f : BoundFunction) :
    (f.callThrough mapType).lines =
      (f.callThrough mapType).documentation ++ [(f.callThrough mapType).signatureLine] ++
        (f.copyStatements ++ [f.callExpression (f.callThrough mapType)]).map ("    " ++ ·) ++
        ["\x7d"] := by
  rw [← indent_eq_map fun _ member => body_ne_empty member, ← copies_callThrough]
  unfold CallThrough.lines block callExpression CallThrough.signatureLine
  simp [BoundFunction.callThrough]

end BoundFunction

/-! ## The statement -/

theorem aligned_params (f : BoundFunction) (options : Options) :
    Aligned ParamAgrees f.crossings (f.binding mapType options).params
      (f.callThrough mapType).params := by
  rw [f.params_binding, f.params_callThrough]
  exact .map fun (name, mapping) _ => paramAgrees_of_mapping name mapping

theorem callsAgree (f : BoundFunction) (options : Options) :
    CallsAgree f (f.binding mapType options) (f.callThrough mapType) where
  bindingSymbol := rfl
  wrapperSymbol := rfl
  params := aligned_params f options
  result := resultAgrees_of_mapping f options
  bindingLines := f.lines_binding options
  wrapperLines := f.lines_callThrough

theorem generate_emitsAgreeingCalls {tree : List Declaration} {options : Options}
    {generation : Generation} (h : generate tree options = .ok generation) :
    EmitsAgreeingCalls tree options generation.code := by
  obtain ⟨set, flat, content⟩ := content_generate h
  refine ⟨set, BindingsSection.items mapType options set.deduplicated,
    WrappersSection.callThroughs mapType set.deduplicated,
    WrappersSection.owners options set.deduplicated, flat, set.nodup_symbols_deduplicated,
    content .bindings, content .wrappers, ?_⟩
  exact .map fun f _ => callsAgree f options

theorem generate_emitsAgreeingCalls_label :
    let tree : List Declaration := [.classType "Label"
      [.function ⟨"rename", "const char*",
          [⟨"name", "const char*"⟩, ⟨"", "char*"⟩, ⟨"box", "int[4]"⟩], none, false, false⟩,
        .function ⟨"count", "int", [], some "All labels.", false, true⟩] [] none false]
    let options : Options := ⟨"Ui", "ui", .cdecl⟩
    ∃ generation, generate tree options = .ok generation ∧
      EmitsAgreeingCalls tree options generation.code :=
  ⟨_, rfl, generate_emitsAgreeingCalls rfl⟩

end ForeignBindings
