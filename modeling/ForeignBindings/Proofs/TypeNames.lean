import ForeignBindings.Proofs.SharedIdentifier

/-!
# Names of mapped types

A mapped type is written with the names of primitive types and of identifiers, and none of them
breaks a line, whatever the foreign type was spelled like (`unbroken_abiName_mapType`).
-/

namespace ForeignBindings
open CType Identifier Text

theorem unbroken_ident {raw fallback : String} (plain : Unbroken fallback) :
    Unbroken (ident raw fallback) := by
  by_cases blank : spelling raw = []
  · rwa [ident_of_blank blank]
  · have word : IsWord "" := isWord_ofList rfl
    rw [ident_of_spelling blank, ← ident_of_spelling blank ""]
    exact unbroken_of_isIdentChar fun _ => mem_ident word.isIdentChar

theorem unbroken_primitive {base name : String} (found : primitive? base = some name) :
    Unbroken name := by
  have table : ∀ entry ∈ primitives,
      (entry.2.toList.all fun c => c != '\n' && c != '\r') = true := by decide
  have plain := table (base, name) (mem_primitives found)
  rw [← String.ofList_toList (s := name)]
  exact unbroken_ofList plain

theorem unbroken_toString (n : Nat) : Unbroken (toString n) :=
  unbroken_of_isIdentChar (isWord_toString n).isIdentChar

/-- The names that a form is written with. -/
def Form.names : Form → List String
  | .scalar name => [name]
  | .pointer pointee _ => [pointee]
  | .named name => [name]
  | .handle | .characters => []

/-- The names that a mapped type is written with. -/
def TypeMapping.names : TypeMapping → List String
  | .plain _ _ form => form.names
  | .array _ _ element => element.names

/-! ## Names of addresses and arrays -/

theorem star_mem_pointerTo (isConst : Bool) (pointee : String) :
    '*' ∈ (pointerTo isConst pointee).toList := by
  cases isConst <;> simp [pointerTo]

theorem pointerTo_ne {name : String} (plain : '*' ∉ name.toList) (isConst : Bool)
    (pointee : String) : pointerTo isConst pointee ≠ name :=
  fun same => plain (same ▸ star_mem_pointerTo isConst pointee)

theorem throughPointers_ne {name : String} (plain : '*' ∉ name.toList) (isConst : Bool)
    (pointee : String) (extra : Nat) :
    throughPointers (pointerTo isConst pointee) extra ≠ name := by
  cases extra with
  | zero => exact pointerTo_ne plain isConst pointee
  | succ extra => exact pointerTo_ne plain false _

namespace TypeMapping

theorem bracket_mem_abiName {m : TypeMapping} (array : m.isArray = true) :
    '[' ∈ m.abiName.toList := by
  cases m with
  | plain => cases array
  | array => simp [abiName]

theorem isVoid_array (spelling : String) (length : UInt64) (element : TypeMapping) :
    (array spelling length element).isVoid = false := by
  have bracket := bracket_mem_abiName (m := array spelling length element) rfl
  rw [isVoid, beq_eq_false_iff_ne, targetName]
  intro unit
  rw [unit] at bracket
  exact absurd bracket (by decide)

end TypeMapping

/-! ## Types of unbroken names -/

theorem unbroken_pointerTo {pointee : String} (plain : Unbroken pointee) (isConst : Bool) :
    Unbroken (pointerTo isConst pointee) := by
  refine Unbroken.append ?_ plain
  cases isConst <;> exact unbroken_ofList rfl

theorem unbroken_throughPointers {type : String} (plain : Unbroken type) (extra : Nat) :
    Unbroken (throughPointers type extra) := by
  induction extra with
  | zero => exact plain
  | succ extra ih => exact unbroken_pointerTo ih false

theorem Form.unbroken_abiName {form : Form} (plain : ∀ name ∈ form.names, Unbroken name)
    (isConst : Bool) : Unbroken (form.abiName isConst) := by
  cases form with
  | scalar name => exact plain name (List.mem_singleton_self name)
  | named name => exact plain name (List.mem_singleton_self name)
  | handle => exact unbroken_ofList rfl
  | characters => exact unbroken_pointerTo (unbroken_ofList rfl) isConst
  | pointer pointee extra =>
      have pointed := plain pointee (List.mem_singleton_self pointee)
      exact unbroken_throughPointers (unbroken_pointerTo pointed isConst) extra

namespace TypeMapping

theorem unbroken_abiName {m : TypeMapping} (plain : ∀ name ∈ m.names, Unbroken name) :
    Unbroken m.abiName := by
  induction m with
  | plain spelling isConst form => exact form.unbroken_abiName plain isConst
  | array spelling length element ih =>
      refine Unbroken.append (.append (.append (.append ?_ (ih plain)) ?_) ?_) ?_
      · exact unbroken_ofList rfl
      · exact unbroken_ofList rfl
      · exact unbroken_toString length.toNat
      · exact unbroken_ofList rfl

theorem unbroken_paramAbi {m : TypeMapping} (plain : ∀ name ∈ m.names, Unbroken name) :
    Unbroken m.paramAbi := by
  cases m with
  | plain spelling isConst form => exact unbroken_abiName plain
  | array spelling length element =>
      have inner : Unbroken element.abiName := unbroken_abiName plain
      exact unbroken_pointerTo inner element.isConst

/-! ## Names that mapping uses -/

/-- Extents and the spelling aside, a mapped type is a function pointer, the type before its
brackets, or a pointer to that type. -/
theorem mapType_induction_of_base {P : TypeMapping → Prop} {type : String} {base : List Char}
    (split : (splitExtents (trim type.toList)).1 = base)
    (respelled : ∀ m spelling, P m → P (m.withSpelling spelling))
    (function : ∀ spelling, P (.plain spelling false .handle))
    (element : ∀ spelling, P (ofShape spelling (shapeOf base)))
    (starred : ∀ spelling, P (ofShape spelling (shapeOf (base ++ ['*']))))
    (array : ∀ spelling length element, P element → P (.array spelling length element)) :
    P (mapType type) := by
  have extents (lengths : List Extent) : P (ofExtents base lengths) := by
    induction lengths with
    | nil =>
        unfold ofExtents ofElement
        dsimp only
        split
        · exact function _
        · exact element _
    | cons extent rest ih =>
        cases extent with
        | some length =>
            rw [ofExtents]
            exact array _ _ _ ih
        | none =>
            cases rest with
            | nil =>
                rw [ofExtents]
                exact respelled _ _ (starred _)
            | cons next rest =>
                rw [ofExtents]
                · exact respelled _ _ ih
                · exact List.cons_ne_nil next rest
  unfold mapType ofText
  dsimp only
  split
  · exact function _
  · cases whole : splitExtents (trim type.toList) with
    | mk front lengths =>
        obtain rfl : front = base := by rw [← split, whole]
        cases lengths with
        | nil => exact element _
        | cons first rest => exact respelled _ _ (extents _)

theorem mapType_induction {P : TypeMapping → Prop} (type : String)
    (respelled : ∀ m spelling, P m → P (m.withSpelling spelling))
    (function : ∀ spelling, P (.plain spelling false .handle))
    (shape : ∀ spelling shape, P (ofShape spelling shape))
    (array : ∀ spelling length element, P element → P (.array spelling length element)) :
    P (mapType type) :=
  mapType_induction_of_base rfl respelled function (fun _ => shape _ _) (fun _ => shape _ _) array

theorem names_withSpelling (m : TypeMapping) (spelling : String) :
    (m.withSpelling spelling).names = m.names := by
  cases m <;> rfl

theorem unbroken_names_ofShape (spelling : String) (shape : Shape) :
    ∀ name ∈ (ofShape spelling shape).names, Unbroken name := by
  unfold ofShape
  split
  · exact List.forall_mem_nil _
  · split
    · rename_i found _
      exact List.forall_mem_singleton.mpr (unbroken_primitive found)
    · rename_i found _
      split
      · exact List.forall_mem_nil _
      · exact List.forall_mem_singleton.mpr (unbroken_primitive found)
    · exact List.forall_mem_nil _
    · have unit : Unbroken "()" := unbroken_ofList rfl
      split
      · exact List.forall_mem_singleton.mpr unit
      · exact List.forall_mem_singleton.mpr (unbroken_ident unit)

theorem unbroken_names_mapType (type : String) : ∀ name ∈ (mapType type).names, Unbroken name := by
  refine mapType_induction (P := fun m => ∀ name ∈ m.names, Unbroken name) type ?_ ?_ ?_ ?_
  · exact fun m spelling plain => by rwa [names_withSpelling]
  · exact fun _ => List.forall_mem_nil _
  · exact unbroken_names_ofShape
  · exact fun _ _ _ plain => plain

end TypeMapping

theorem unbroken_abiName_mapType (type : String) : Unbroken (mapType type).abiName :=
  TypeMapping.unbroken_abiName (TypeMapping.unbroken_names_mapType type)

theorem unbroken_paramAbi_mapType (type : String) : Unbroken (mapType type).paramAbi :=
  TypeMapping.unbroken_paramAbi (TypeMapping.unbroken_names_mapType type)

end ForeignBindings
