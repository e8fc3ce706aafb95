import ForeignBindings.Proofs.FunctionPointer
import ForeignBindings.TypeMapping.OfType

/-!
# Extents of array types

The text of an array type is read back as its base and its extents (`mapType_spacedBrackets`). A
type with extents is an array as soon as one of them is known, wherever it stands; only when none of
them is known does the type decay to a pointer (`decays_ofExtents_iff`). So `T[]` is a pointer,
while `T[][3]` is the array `T[3]` (`decaysWhenUnsized`).
-/

namespace ForeignBindings
open CType Text

namespace CType

/-! ## Reading extents -/

/-- A text between brackets. -/
def bracketed (inner : List Char) : List Char := '[' :: inner ++ [']']

theorem extentsFrom_inner {inner : List Char} (plain : ']' ∉ inner) (opened rest : List Char) :
    extentsFrom (some opened) (inner ++ ']' :: rest) =
      readExtent (opened.reverse ++ inner) :: extentsFrom none rest := by
  induction inner generalizing opened with
  | nil => rw [List.nil_append, extentsFrom, if_pos rfl, List.append_nil]
  | cons c inner ih =>
      rw [List.mem_cons, not_or] at plain
      rw [List.cons_append, extentsFrom, if_neg (Ne.symm plain.1), ih plain.2, List.reverse_cons,
        List.append_assoc, List.singleton_append]

/-- Some blanks and a text between brackets behind them. -/
def spacedBrackets (group : List Char × List Char) : List Char := group.1 ++ bracketed group.2

theorem extentsFrom_blank_append {blanks : List Char} (blank : ∀ c ∈ blanks, isBlank c = true)
    (rest : List Char) : extentsFrom none (blanks ++ rest) = extentsFrom none rest := by
  induction blanks with
  | nil => rfl
  | cons c blanks ih =>
      obtain ⟨head, tail⟩ := List.forall_mem_cons.mp blank
      have noBracket : '[' ∉ c :: blanks := not_mem_of_blank blank (by decide)
      rw [List.mem_cons, not_or] at noBracket
      rw [List.cons_append, extentsFrom, if_neg (Ne.symm noBracket.1), if_pos head, ih tail]

theorem flatMap_spacedBrackets_cons (gap extent : List Char)
    (groups : List (List Char × List Char)) :
    ((gap, extent) :: groups).flatMap spacedBrackets =
      gap ++ '[' :: (extent ++ ']' :: groups.flatMap spacedBrackets) := by
  simp [spacedBrackets, bracketed]

theorem extentsFrom_spacedBrackets_append {groups : List (List Char × List Char)}
    (blank : ∀ group ∈ groups, ∀ c ∈ group.1, isBlank c = true)
    (closed : ∀ group ∈ groups, ']' ∉ group.2) (rest : List Char) :
    extentsFrom none (groups.flatMap spacedBrackets ++ rest) =
      groups.map (fun group => readExtent group.2) ++ extentsFrom none rest := by
  induction groups with
  | nil => rfl
  | cons group groups ih =>
      obtain ⟨blankHead, blankTail⟩ := List.forall_mem_cons.mp blank
      obtain ⟨closedHead, closedTail⟩ := List.forall_mem_cons.mp closed
      rw [flatMap_spacedBrackets_cons, List.append_assoc, extentsFrom_blank_append blankHead,
        List.cons_append, List.append_assoc, List.cons_append, extentsFrom, if_pos rfl,
        extentsFrom_inner closedHead, ih blankTail closedTail, List.reverse_nil, List.nil_append,
        List.map_cons, List.cons_append]

theorem getLast?_append_spacedBrackets {groups : List (List Char × List Char)}
    (nonempty : groups ≠ []) (front : List Char) :
    (front ++ groups.flatMap spacedBrackets).getLast? = some ']' := by
  obtain ⟨groups, group, rfl⟩ := List.eq_nil_or_concat groups |>.resolve_left nonempty
  have closing : front ++ (groups ++ [group]).flatMap spacedBrackets =
      front ++ groups.flatMap spacedBrackets ++ group.1 ++ '[' :: group.2 ++ [']'] := by
    simp [spacedBrackets, bracketed]
  rw [List.concat_eq_append, closing, List.getLast?_concat]

theorem splitExtents_append_cons {base : List Char} (plain : '[' ∉ base) (rest : List Char) :
    splitExtents (base ++ '[' :: rest) = (trimEnd base, extentsFrom none ('[' :: rest)) := by
  rw [splitExtents, takeWhile_bne_append_cons plain, dropWhile_bne_append_cons plain]

/-- Blanks before a bracket belong neither to the base nor to an extent, and neither does what stands
behind the last bracket and starts no other extent. -/
theorem splitExtents_spacedBrackets {base rest : List Char}
    {groups : List (List Char × List Char)} (plain : '[' ∉ base)
    (blank : ∀ group ∈ groups, ∀ c ∈ group.1, isBlank c = true)
    (closed : ∀ group ∈ groups, ']' ∉ group.2) (nonempty : groups ≠ [])
    (stops : extentsFrom none rest = []) :
    splitExtents (trimStart (base ++ groups.flatMap spacedBrackets ++ rest)) =
      (trim base, groups.map fun group => readExtent group.2) := by
  have extents := extentsFrom_spacedBrackets_append blank closed rest
  obtain ⟨⟨gap, extent⟩, groups, rfl⟩ := List.exists_cons_of_ne_nil nonempty
  have blankGap : ∀ c ∈ gap, isBlank c = true := blank _ List.mem_cons_self
  have unopened : '[' ∉ trimStart (base ++ gap) := fun member => by
    rcases List.mem_append.mp ((List.dropWhile_sublist _).subset member) with inBase | inGap
    · exact plain inBase
    · exact not_mem_of_blank blankGap (by decide) inGap
  rw [flatMap_spacedBrackets_cons, List.append_assoc, extentsFrom_blank_append blankGap,
    List.cons_append, stops, List.append_nil] at extents
  rw [flatMap_spacedBrackets_cons, List.append_assoc, List.append_assoc, ← List.append_assoc base,
    List.cons_append, trimStart_append_cons _ (by decide), splitExtents_append_cons unopened,
    extents, ← trim_append_blank base blankGap, trim]

/-! ## Function pointers end with a parenthesis -/

theorem getLast?_of_read? {cs : List Char} {signature : FunctionPointer}
    (read : FunctionPointer.read? cs = some signature) : (trim cs).getLast? = some ')' := by
  obtain ⟨s, spelled, -⟩ := FunctionPointer.exists_spelling_of_read? read
  rw [spelled, PointerSpelling.text, ← List.cons_append, ← List.append_assoc, ← List.append_assoc,
    ← List.append_assoc, List.getLast?_concat]

/-- The text of a function pointer ends with the parenthesis of its parameters. -/
theorem read?_eq_none {cs : List Char} (unclosed : (trim cs).getLast? ≠ some ')') :
    FunctionPointer.read? cs = none :=
  Option.eq_none_iff_forall_ne_some.mpr fun _ read => unclosed (getLast?_of_read? read)

end CType

/-! ## Types with extents -/

namespace TypeMapping

/-- The type is one address, whatever it points at. -/
structure Decays (m : TypeMapping) : Prop where
  isPointer : m.isPointer = true
  notArray : m.isArray = false
  address : m.abiName = nativeHandle ∨ ∃ isConst pointee, m.abiName = pointerTo isConst pointee

theorem decays_withSpelling_iff {m : TypeMapping} {spelling : String} :
    (m.withSpelling spelling).Decays ↔ m.Decays := by
  cases m <;> exact ⟨fun ⟨pointer, value, address⟩ => ⟨pointer, value, address⟩,
    fun ⟨pointer, value, address⟩ => ⟨pointer, value, address⟩⟩

theorem decays_plain {spelling : String} {isConst : Bool} {form : Form}
    (pointer : form.isPointer = true) : (plain spelling isConst form).Decays := by
  refine ⟨pointer, rfl, ?_⟩
  cases form with
  | scalar | named => cases pointer
  | handle => exact .inl rfl
  | characters => exact .inr ⟨_, _, rfl⟩
  | pointer pointee extra => cases extra with
      | zero => exact .inr ⟨_, _, rfl⟩
      | succ extra => exact .inr ⟨_, _, rfl⟩

theorem decays_ofShape {spelling : String} {shape : CType.Shape} (address : shape.indirection ≠ 0) :
    (ofShape spelling shape).Decays := by
  unfold ofShape
  split
  · exact decays_plain rfl
  · split
    · rename_i none
      exact absurd none address
    · split <;> exact decays_plain rfl
    · exact decays_plain rfl
    · rename_i none
      exact absurd none address

theorem isArray_withSpelling (m : TypeMapping) (spelling : String) :
    (m.withSpelling spelling).isArray = m.isArray := by
  cases m <;> rfl

theorem paramAbi_eq_abiName {m : TypeMapping} (single : m.isArray = false) :
    m.paramAbi = m.abiName := by
  cases m with
  | plain => rfl
  | array => cases single

theorem ofExtents_cons_none {base : List Char} {extents : List Extent} (nonempty : extents ≠ []) :
    ofExtents base (none :: extents) = (ofExtents base extents).withSpelling
      (String.ofList base ++ renderExtents (none :: extents)) := by
  rw [ofExtents]
  exact nonempty

theorem decays_ofExtents {base : List Char} {extents : List Extent} (some : extents ≠ [])
    (unknown : ∀ e ∈ extents, e = none) : (ofExtents base extents).Decays := by
  induction extents with
  | nil => exact absurd rfl some
  | cons e extents ih =>
      obtain ⟨rfl, later⟩ := List.forall_mem_cons.mp unknown
      cases extents with
      | nil =>
          rw [ofExtents]
          refine decays_withSpelling_iff.mpr (decays_ofShape ?_)
          simp [shapeOf, indirection]
      | cons next extents =>
          rw [ofExtents_cons_none (List.cons_ne_nil next extents)]
          exact decays_withSpelling_iff.mpr (ih (List.cons_ne_nil next extents) later)

theorem isArray_ofExtents {base : List Char} {extents : List Extent}
    (known : ∃ e ∈ extents, e ≠ none) : (ofExtents base extents).isArray = true := by
  induction extents with
  | nil => simp at known
  | cons e extents ih =>
      cases e with
      | some length =>
          rw [ofExtents]
          rfl
      | none =>
          have rest : ∃ e ∈ extents, e ≠ none := by simpa using known
          have nonempty : extents ≠ [] := by
            rintro rfl
            simp at rest
          rw [ofExtents_cons_none nonempty, isArray_withSpelling]
          exact ih rest

/-- A type with extents is a pointer exactly when all of them are unknown. -/
theorem decays_ofExtents_iff {base : List Char} {extents : List Extent} (nonempty : extents ≠ []) :
    (ofExtents base extents).Decays ↔ ∀ e ∈ extents, e = none := by
  refine ⟨fun decays => ?_, decays_ofExtents nonempty⟩
  by_contra known
  push Not at known
  have array : (ofExtents base extents).isArray = true := isArray_ofExtents known
  rw [decays.notArray] at array
  cases array

theorem isArray_ofExtents_iff {base : List Char} {extents : List Extent} (nonempty : extents ≠ []) :
    (ofExtents base extents).isArray = true ↔ ∃ e ∈ extents, e ≠ none := by
  refine ⟨fun array => ?_, isArray_ofExtents⟩
  by_contra unknown
  push Not at unknown
  rw [(decays_ofExtents nonempty unknown).notArray] at array
  cases array

theorem withSpelling_withSpelling (m : TypeMapping) (first second : String) :
    (m.withSpelling first).withSpelling second = m.withSpelling second := by
  cases m <;> rfl

theorem withSpelling_ofShape (first second spelling : String) (shape : CType.Shape) :
    (ofShape first shape).withSpelling spelling = (ofShape second shape).withSpelling spelling := by
  unfold ofShape
  repeat' split
  all_goals rfl

end TypeMapping

theorem mapType_eq_ofExtents {type : String} {base : List Char} {extents : List Extent}
    (noFunction : FunctionPointer.read? (trim type.toList) = none)
    (split : splitExtents (trim type.toList) = (base, extents)) (nonempty : extents ≠ []) :
    mapType type = (TypeMapping.ofExtents base extents).withSpelling
      (String.ofList (trim type.toList)) := by
  obtain ⟨extent, extents, rfl⟩ := List.exists_cons_of_ne_nil nonempty
  unfold mapType TypeMapping.ofText
  dsimp only
  rw [noFunction, split, if_neg (by decide)]

/-- A type with brackets is mapped by what stands before them and by what they hold; the blanks
before a bracket and at both ends make no difference. -/
theorem mapType_spacedBrackets {type : String} {base trailing : List Char}
    {groups : List (List Char × List Char)}
    (spelled : type.toList = base ++ groups.flatMap spacedBrackets ++ trailing)
    (plain : '[' ∉ base) (nonempty : groups ≠ [])
    (blank : ∀ group ∈ groups, ∀ c ∈ group.1, isBlank c = true)
    (closed : ∀ group ∈ groups, ']' ∉ group.2) (blankEnd : ∀ c ∈ trailing, isBlank c = true) :
    mapType type = (TypeMapping.ofExtents (trim base) (groups.map fun group =>
      readExtent group.2)).withSpelling (String.ofList (trim type.toList)) := by
  have last := getLast?_append_spacedBrackets nonempty base
  have trimmed : trim type.toList = trimStart (base ++ groups.flatMap spacedBrackets) := by
    rw [spelled, trim_append_blank _ blankEnd,
      trim_eq_trimStart (visible_of_getLast? last (by decide))]
  have noFunction : FunctionPointer.read? (trim type.toList) = none := by
    refine read?_eq_none fun closing => ?_
    rw [trim_trim, spelled, trim_append_blank _ blankEnd, getLast?_trim last (by decide)] at closing
    cases closing
  refine mapType_eq_ofExtents noFunction ?_ (List.map_eq_nil_iff.not.mpr nonempty)
  rw [trimmed, ← List.append_nil (base ++ _),
    splitExtents_spacedBrackets plain blank closed nonempty rfl]

/-- The type that a base and the texts between the brackets after it spell. -/
def arrayType (base : String) (extents : List String) : String :=
  base ++ String.join (extents.map fun e => "[" ++ e ++ "]")

theorem mapType_arrayType {base : String} {extents : List String} (nonempty : extents ≠ [])
    (plain : '[' ∉ base.toList) (closed : ∀ e ∈ extents, ']' ∉ e.toList) :
    mapType (arrayType base extents) =
      (TypeMapping.ofExtents (trim base.toList)
        (extents.map fun e => readExtent e.toList)).withSpelling
          (String.ofList (trim (arrayType base extents).toList)) := by
  have spelled : (arrayType base extents).toList =
      base.toList ++ (extents.map fun e => ([], e.toList)).flatMap spacedBrackets ++ [] := by
    simp [arrayType, String.toList_join, List.flatMap_map, spacedBrackets, bracketed]
  rw [mapType_spacedBrackets spelled plain (List.map_eq_nil_iff.not.mpr nonempty) (by simp)
    (List.forall_mem_map.mpr closed) (List.forall_mem_nil _), List.map_map]
  rfl

/-! ## The statement -/

/-- What a type becomes when the first of its extents is left out: a pointer exactly when no other
extent is known, and otherwise the type without the first extent. -/
structure DecaysWhenUnsized (base : String) (extents : List String) : Prop where
  pointer : (mapType (arrayType base ("" :: extents))).Decays ↔
    ∀ e ∈ extents, readExtent e.toList = none
  array : (mapType (arrayType base ("" :: extents))).isArray = true ↔
    ∃ e ∈ extents, readExtent e.toList ≠ none
  inline : extents ≠ [] → mapType (arrayType base ("" :: extents)) =
    (mapType (arrayType base extents)).withSpelling
      (String.ofList (trim (arrayType base ("" :: extents)).toList))

theorem decaysWhenUnsized {base : String} {extents : List String} (plain : '[' ∉ base.toList)
    (closed : ∀ e ∈ extents, ']' ∉ e.toList) : DecaysWhenUnsized base extents := by
  have unsized : readExtent "".toList = none := by decide
  have closedAll : ∀ e ∈ "" :: extents, ']' ∉ e.toList :=
    List.forall_mem_cons.mpr ⟨by decide, closed⟩
  have mapped := mapType_arrayType (List.cons_ne_nil "" extents) plain closedAll
  rw [List.map_cons, unsized] at mapped
  have lengths : none :: extents.map (fun e => readExtent e.toList) ≠ [] := List.cons_ne_nil _ _
  refine
    { pointer := ?_
      array := ?_
      inline := fun nonempty => ?_ }
  · rw [mapped, TypeMapping.decays_withSpelling_iff, TypeMapping.decays_ofExtents_iff lengths]
    simp
  · rw [mapped, TypeMapping.isArray_withSpelling, TypeMapping.isArray_ofExtents_iff lengths]
    simp
  · have rest : extents.map (fun e => readExtent e.toList) ≠ [] :=
      List.map_eq_nil_iff.not.mpr nonempty
    rw [mapped, TypeMapping.ofExtents_cons_none rest, mapType_arrayType nonempty plain closed,
      TypeMapping.withSpelling_withSpelling, TypeMapping.withSpelling_withSpelling]

/-- An array of matrices whose number of rows is given by a macro. -/
theorem decaysWhenUnsized_matrix :
    '[' ∉ "const float".toList ∧ (∀ e ∈ ["ROWS", "3"], ']' ∉ e.toList) ∧
      DecaysWhenUnsized "const float" ["ROWS", "3"] :=
  ⟨by decide, by decide, decaysWhenUnsized (by decide) (by decide)⟩

/-- An array of rows that leaves out their number is taken for one row. -/
theorem mapType_unsizedRows_isArray :
    arrayType "int" ["", "3"] = "int[][3]" ∧ (mapType "int[][3]").isArray = true ∧
      (mapType "int[][3]").isPointer = false ∧ (mapType "int[][3]").abiName = "[i32; 3]" := by
  decide

end ForeignBindings
