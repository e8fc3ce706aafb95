import ForeignBindings.Proofs.Identifier
import ForeignBindings.Proofs.PointerToArray
import ForeignBindings.Proofs.Text.Digits

/-!
# Arrays of arrays

An array of several dimensions is stored row by row: the first extent is the outermost length, and
an element is what the type with the other extents is mapped to (`isRowMajor`). The extents that are
left are written down again before the element is mapped. What is written is read back as the same
extents (`mapType_rendered`), so nothing is lost on the way down to the type before the brackets.
-/

namespace ForeignBindings
open CType Identifier Text

namespace CType

/-! ## Extents written down again -/

/-- The text of an extent between its brackets. -/
def extentText : Extent → List Char
  | some n => (toString n).toList
  | none => []

theorem readExtent_extentText (extent : Extent) : readExtent (extentText extent) = extent := by
  cases extent with
  | none => decide
  | some n =>
      have digits : trim (toString n).toList = (toString n).toList :=
        trim_word (isWord_toString n.toNat)
      rw [extentText, readExtent, digits, readWord_toString]

theorem closed_extentText (extent : Extent) : ']' ∉ extentText extent := by
  cases extent with
  | none => exact List.not_mem_nil
  | some n => exact fun member => absurd (isWord_toString n.toNat ']' member) (by decide)

/-- The extents with nothing before their brackets. -/
def extentGroups (extents : List Extent) : List (List Char × List Char) :=
  extents.map fun extent => ([], extentText extent)

theorem blank_extentGroups (extents : List Extent) :
    ∀ group ∈ extentGroups extents, ∀ c ∈ group.1, isBlank c = true :=
  List.forall_mem_map.mpr fun _ _ => List.forall_mem_nil _

theorem closed_extentGroups (extents : List Extent) : ∀ group ∈ extentGroups extents, ']' ∉ group.2 :=
  List.forall_mem_map.mpr fun extent _ => closed_extentText extent

theorem toList_renderExtents (extents : List Extent) :
    (renderExtents extents).toList = (extentGroups extents).flatMap spacedBrackets := by
  have rendered (extent : Extent) :
      (renderExtent extent).toList = bracketed (extentText extent) := by
    cases extent <;> simp [renderExtent, bracketed, extentText]
  simp [renderExtents, String.toList_join, List.flatMap_map, extentGroups, spacedBrackets, rendered]

theorem readExtents_extentGroups (extents : List Extent) :
    ((extentGroups extents).map fun group => readExtent group.2) = extents := by
  rw [extentGroups, List.map_map]
  exact List.map_id'' readExtent_extentText extents

/-- No blanks stand before the first of these brackets or behind the last. -/
theorem trim_append_extentGroups (cs : List Char) (extents : List Extent) :
    trim (trim cs ++ (extentGroups extents).flatMap spacedBrackets) =
      trim cs ++ (extentGroups extents).flatMap spacedBrackets := by
  cases extents with
  | nil => rw [extentGroups, List.map_nil, List.flatMap_nil, List.append_nil, trim_trim]
  | cons extent extents =>
      have last := getLast?_append_spacedBrackets
        (List.cons_ne_nil ([], extentText extent) (extentGroups extents)) (trim cs)
      have groups : extentGroups (extent :: extents) =
          ([], extentText extent) :: extentGroups extents := List.map_cons
      rw [groups, trim_eq_trimStart (visible_of_getLast? last (by decide)),
        flatMap_spacedBrackets_cons, List.nil_append, trimStart_append_cons _ (by decide),
        trimStart_trim]

end CType

namespace TypeMapping

theorem withSpelling_ofExtents {base : List Char} {extents : List Extent}
    (nonempty : extents ≠ []) :
    (ofExtents base extents).withSpelling (String.ofList base ++ renderExtents extents) =
      ofExtents base extents := by
  obtain ⟨extent, extents, rfl⟩ := List.exists_cons_of_ne_nil nonempty
  cases extent with
  | some length => rw [ofExtents, withSpelling]
  | none =>
      cases extents with
      | nil => rw [ofExtents, withSpelling_withSpelling]
      | cons next extents =>
          rw [ofExtents_cons_none (List.cons_ne_nil next extents), withSpelling_withSpelling]

end TypeMapping

/-- Extents that are written down behind a type are taken off again. -/
theorem mapType_rendered {base : String} (plain : '[' ∉ base.toList) (extents : List Extent) :
    mapType (String.ofList (trim base.toList) ++ renderExtents extents) =
      TypeMapping.ofExtents (trim base.toList) extents := by
  have unopened : '[' ∉ trim base.toList := fun member => plain (mem_of_mem_trim member)
  have written : (String.ofList (trim base.toList) ++ renderExtents extents).toList =
      trim base.toList ++ (extentGroups extents).flatMap spacedBrackets := by
    rw [String.toList_append, String.toList_ofList, toList_renderExtents]
  by_cases nonempty : extents = []
  · rw [nonempty, extentGroups, List.map_nil, List.flatMap_nil, List.append_nil] at written
    rw [nonempty, TypeMapping.ofExtents, mapType_eq_ofElement (by rwa [written]), written,
      trim_trim]
  · have spelled := written.trans (List.append_nil _).symm
    have trimmed :
        String.ofList (trim (String.ofList (trim base.toList) ++ renderExtents extents).toList) =
          String.ofList (trim base.toList) ++ renderExtents extents := by
      rw [written, trim_append_extentGroups, ← written, String.ofList_toList]
    rw [mapType_spacedBrackets spelled unopened (List.map_eq_nil_iff.not.mpr nonempty)
      (blank_extentGroups extents) (closed_extentGroups extents) (List.forall_mem_nil _), trimmed,
      trim_trim, readExtents_extentGroups, TypeMapping.withSpelling_ofExtents nonempty]

/-! ## How an array is spelled -/

/-- An extent in decimal, with the blanks that stand before its brackets and within them. -/
structure WrittenLength where
  gap : Gap
  opening : Gap
  digits : String
  digits_ne_nil : digits.toList ≠ []
  digits_decimal : digits.toList.all Char.isDigit = true
  digits_fit : Nat.ofDigitChars 10 digits.toList 0 < UInt64.size
  closing : Gap

namespace WrittenLength

variable (l : WrittenLength)

def spelling : String := l.gap ++ "[" ++ l.opening ++ l.digits ++ l.closing ++ "]"

/-- The number that is written. -/
def length : UInt64 := (Nat.ofDigitChars 10 l.digits.toList 0).toUInt64

/-- The gap before the brackets, and the text within them. -/
def group : List Char × List Char :=
  (l.gap.val.toList, l.opening.val.toList ++ l.digits.toList ++ l.closing.val.toList)

theorem isWordChar_of_mem_digits {c : Char} (member : c ∈ l.digits.toList) :
    isWordChar c = true := by
  rw [isWordChar, Char.isAlphanum, List.all_eq_true.mp l.digits_decimal c member, Bool.or_true,
    Bool.true_or]

theorem readExtent_group : readExtent l.group.2 = some l.length := by
  rw [group, readExtent, List.append_assoc, trim_blank_append (blank_gap l.opening),
    trim_append_blank _ (blank_gap l.closing), trim_word fun _ => l.isWordChar_of_mem_digits]
  exact readWord_decimal l.digits_ne_nil (List.all_eq_true.mp l.digits_decimal) l.digits_fit

theorem closed_group : ']' ∉ l.group.2 := by
  have blank (gap : Gap) : ']' ∉ gap.val.toList := not_mem_of_blank (blank_gap gap) (by decide)
  have digits : ']' ∉ l.digits.toList := fun member =>
    absurd (l.isWordChar_of_mem_digits member) (by decide)
  simp [group, blank, digits]

end WrittenLength

/-- An array type: what stands before the brackets, the brackets and the blanks behind them. -/
def writtenArray (base : String) (lengths : List WrittenLength) (trailing : Gap) : String :=
  base ++ String.join (lengths.map (·.spelling)) ++ trailing

theorem toList_writtenArray (base : String) (lengths : List WrittenLength) (trailing : Gap) :
    (writtenArray base lengths trailing).toList =
      base.toList ++ (lengths.map (·.group)).flatMap spacedBrackets ++ trailing.val.toList := by
  simp [writtenArray, String.toList_join, List.flatMap_map, WrittenLength.spelling,
    WrittenLength.group, spacedBrackets, bracketed]

/-! ## What it is mapped to -/

namespace TypeMapping

/-- The mapping `innermost` within arrays of these lengths, the outermost first. -/
inductive InArrays (innermost : TypeMapping) : List UInt64 → TypeMapping → Prop
  | innermost : InArrays innermost [] innermost
  | array {spelling length lengths element} : InArrays innermost lengths element →
      InArrays innermost (length :: lengths) (.array spelling length element)

theorem InArrays.abiName {innermost m : TypeMapping} {lengths : List UInt64}
    (rows : InArrays innermost lengths m) : m.abiName = inlineArrays lengths innermost.abiName := by
  induction rows with
  | innermost => rfl
  | array _ ih =>
      rw [TypeMapping.abiName, ih]
      rfl

theorem inArrays_ofExtents (base : List Char) (lengths : List UInt64) :
    InArrays (ofElement base) lengths (ofExtents base (lengths.map some)) := by
  induction lengths with
  | nil =>
      rw [List.map_nil, ofExtents]
      exact .innermost
  | cons length lengths ih =>
      rw [List.map_cons, ofExtents]
      exact .array ih

theorem withSpelling_self (m : TypeMapping) : m.withSpelling m.spelling = m := by
  cases m <;> rfl

end TypeMapping

section

variable {base : String} (plain : '[' ∉ base.toList)
include plain

theorem mapType_writtenArray_nil (trailing : Gap) :
    mapType (writtenArray base [] trailing) = mapType base := by
  have spelled : (writtenArray base [] trailing).toList = base.toList ++ trailing.val.toList := by
    rw [toList_writtenArray, List.map_nil, List.flatMap_nil, List.append_nil]
  have unopened : '[' ∉ base.toList ++ trailing.val.toList := fun member =>
    (List.mem_append.mp member).elim plain (not_mem_of_blank (blank_gap trailing) (by decide))
  rw [mapType_eq_ofElement (by rwa [spelled]), spelled, trim_append_blank _ (blank_gap trailing),
    mapType_eq_ofElement plain]

theorem mapType_writtenArray_cons (first : WrittenLength) (rest : List WrittenLength)
    (trailing : Gap) : mapType (writtenArray base (first :: rest) trailing) =
      .array (String.ofList (trim (writtenArray base (first :: rest) trailing).toList)) first.length
        (TypeMapping.ofExtents (trim base.toList) (rest.map fun l => some l.length)) := by
  have blank : ∀ group ∈ (first :: rest).map (·.group), ∀ c ∈ group.1, isBlank c = true :=
    List.forall_mem_map.mpr fun l _ => blank_gap l.gap
  have closed : ∀ group ∈ (first :: rest).map (·.group), ']' ∉ group.2 :=
    List.forall_mem_map.mpr fun l _ => l.closed_group
  have lengths : ((first :: rest).map (·.group)).map (fun group => readExtent group.2) =
      (first :: rest).map fun l => some l.length := by
    rw [List.map_map]
    exact List.map_congr_left fun (l : WrittenLength) _ => l.readExtent_group
  rw [mapType_spacedBrackets (toList_writtenArray base (first :: rest) trailing) plain
    (List.cons_ne_nil _ _) blank closed (blank_gap trailing), lengths, List.map_cons,
    TypeMapping.ofExtents, TypeMapping.withSpelling]

/-- Up to its spelling, the element that is left is mapped as the type with the other brackets. -/
theorem ofExtents_eq_mapType_writtenArray (lengths : List WrittenLength) (trailing : Gap) :
    ∃ spelling, TypeMapping.ofExtents (trim base.toList) (lengths.map fun l => some l.length) =
      (mapType (writtenArray base lengths trailing)).withSpelling spelling := by
  cases lengths with
  | nil =>
      rw [mapType_writtenArray_nil plain, mapType_eq_ofElement plain, List.map_nil,
        TypeMapping.ofExtents]
      exact ⟨_, (TypeMapping.withSpelling_self _).symm⟩
  | cons first rest =>
      rw [mapType_writtenArray_cons plain, List.map_cons, TypeMapping.ofExtents]
      exact ⟨_, rfl⟩

end

/-! ## The statement -/

/-- What an array type is mapped to: an array of the first length. Its element is what the text with
the other lengths behind the base is mapped to, and up to its spelling what the type without the
first brackets is mapped to, down to the base alone. -/
structure IsRowMajor (base : String) (first : WrittenLength) (rest : List WrittenLength)
    (trailing : Gap) : Prop where
  isArray : (mapType (writtenArray base (first :: rest) trailing)).isArray = true
  arrayLength : (mapType (writtenArray base (first :: rest) trailing)).arrayLength =
    some first.length
  rendered : (mapType (writtenArray base (first :: rest) trailing)).element =
    some (mapType (String.ofList (trim base.toList) ++
      renderExtents (rest.map fun l => some l.length)))
  element : ∀ trailing', ∃ spelling,
    (mapType (writtenArray base (first :: rest) trailing)).element =
      some ((mapType (writtenArray base rest trailing')).withSpelling spelling)
  bare : ∀ trailing', mapType (writtenArray base [] trailing') = mapType base
  levels : TypeMapping.InArrays (mapType base) ((first :: rest).map (·.length))
    (mapType (writtenArray base (first :: rest) trailing))
  abiName : (mapType (writtenArray base (first :: rest) trailing)).abiName =
    inlineArrays ((first :: rest).map (·.length)) (mapType base).abiName

theorem isRowMajor {base : String} (plain : '[' ∉ base.toList) (first : WrittenLength)
    (rest : List WrittenLength) (trailing : Gap) : IsRowMajor base first rest trailing := by
  have mapped := mapType_writtenArray_cons plain first rest trailing
  have levels : TypeMapping.InArrays (mapType base) ((first :: rest).map (·.length))
      (mapType (writtenArray base (first :: rest) trailing)) := by
    have inner := TypeMapping.inArrays_ofExtents (trim base.toList) (rest.map (·.length))
    rw [← mapType_eq_ofElement plain, List.map_map] at inner
    rw [mapped, List.map_cons]
    exact .array inner
  refine
    { isArray := by rw [mapped]; rfl
      arrayLength := by rw [mapped]; rfl
      rendered := ?_
      element := fun trailing' => ?_
      bare := mapType_writtenArray_nil plain
      levels := levels
      abiName := levels.abiName }
  · rw [mapped, mapType_rendered plain]
    rfl
  · obtain ⟨spelling, rows⟩ := ofExtents_eq_mapType_writtenArray plain rest trailing'
    exact ⟨spelling, by rw [mapped, ← rows]; rfl⟩

/-- Two rows of three bytes. -/
theorem isRowMajor_bytes :
    let two : WrittenLength := ⟨⟨" ", by decide⟩, ⟨"\t", by decide⟩, "2", by decide, by decide,
      by decide, ⟨" ", by decide⟩⟩
    let three : WrittenLength := ⟨⟨"\n", by decide⟩, ⟨"", by decide⟩, "003", by decide, by decide,
      by decide, ⟨"", by decide⟩⟩
    let nothing : Gap := ⟨"", by decide⟩
    writtenArray "const unsigned char" [two, three] nothing = "const unsigned char [\t2 ]\n[003]" ∧
      '[' ∉ "const unsigned char".toList ∧
      IsRowMajor "const unsigned char" two [three] nothing ∧
      (mapType "const unsigned char [\t2 ]\n[003]").abiName = "[[u8; 3]; 2]" :=
  ⟨by decide, by decide, isRowMajor (by decide) _ _ _, by decide⟩

end ForeignBindings
