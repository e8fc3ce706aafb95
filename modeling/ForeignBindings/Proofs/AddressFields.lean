import ForeignBindings.Proofs.PointerToArray
import ForeignBindings.Proofs.UnresolvedTypes

/-!
# Fields that are addresses

A star or an ampersand before the first bracket makes an address of a type, whatever stands around
it: extents are taken off the text that has the mark in it, and so every level that is left is an
address again (`ofAddresses_mapType`). An address is written without the name of what it points at,
unless that is primitive. So a record that points at itself or at other records holds none of them
(`freeOfDeclared`).
-/

namespace ForeignBindings
open CType Identifier Text

/-- A star or an ampersand stands before the first bracket. -/
def isAddressed (cs : List Char) : Bool := (cs.takeWhile (· != '[')).any isDecoration

/-! ## The mark of an address -/

namespace CType

theorem mem_takeWhile_trim {cs : List Char} {c : Char} (visible : isBlank c = false)
    (member : c ∈ cs.takeWhile (· != '[')) : c ∈ (trim cs).takeWhile (· != '[') := by
  obtain ⟨front, back, blankFront, blankBack, whole⟩ := exists_blanks_trim cs
  have unopened : ∀ d ∈ front, (d != '[') = true := fun d there =>
    bne_iff_ne.mpr (ne_of_mem_of_not_mem there (not_mem_of_blank blankFront (by decide)))
  rw [whole, List.append_assoc, List.takeWhile_append_of_pos unopened, List.mem_append] at member
  have behind := member.resolve_left (not_mem_of_blank blankFront visible)
  rw [List.takeWhile_append] at behind
  split at behind
  · rename_i all
    rw [(List.takeWhile_prefix _).eq_of_length all]
    refine (List.mem_append.mp behind).resolve_right fun later => ?_
    exact not_mem_of_blank blankBack visible ((List.takeWhile_prefix _).subset later)
  · exact behind

theorem mem_splitExtents {cs : List Char} {c : Char} (visible : isBlank c = false)
    (member : c ∈ cs.takeWhile (· != '[')) : c ∈ (splitExtents cs).1 := by
  unfold splitExtents
  dsimp only
  split
  · exact member
  · exact mem_trimEnd member visible

theorem indirection_splitExtents {cs : List Char} (addressed : isAddressed cs = true) :
    indirection (splitExtents (trim cs)).1 ≠ 0 := by
  obtain ⟨c, member, mark⟩ := List.any_eq_true.mp addressed
  have visible := isBlank_of_isDecoration mark
  intro value
  have plain := indirection_eq_zero_iff.mp value c (mem_splitExtents visible
    (mem_takeWhile_trim visible member))
  rw [mark] at plain
  cases plain

end CType

/-! ## What an address is mapped to -/

/-- An address within any number of arrays. -/
inductive TypeMapping.OfAddresses : TypeMapping → Prop
  | handle {spelling isConst} : OfAddresses (.plain spelling isConst .handle)
  | characters {spelling isConst} : OfAddresses (.plain spelling isConst .characters)
  | pointer {spelling isConst base pointee extra} : (base, pointee) ∈ primitives → base ≠ "void" →
      OfAddresses (.plain spelling isConst (.pointer pointee extra))
  | array {spelling length element} : OfAddresses element →
      OfAddresses (.array spelling length element)

/-- The name of an address: a native handle, or a pointer to the counterpart of a primitive type
that has values. -/
inductive IsAddressName : String → Prop
  | handle : IsAddressName nativeHandle
  | pointer {base pointee} : (base, pointee) ∈ primitives → base ≠ "void" →
      ∀ isConst extra, IsAddressName (throughPointers (pointerTo isConst pointee) extra)

namespace TypeMapping

theorem OfAddresses.withSpelling {m : TypeMapping} (addresses : m.OfAddresses) (spelling : String) :
    (m.withSpelling spelling).OfAddresses := by
  cases addresses with
  | handle => exact .handle
  | characters => exact .characters
  | pointer listed value => exact .pointer listed value
  | array element => exact .array element

theorem ofAddresses_ofShape {shape : CType.Shape} (address : shape.indirection ≠ 0)
    (spelling : String) : (ofShape spelling shape).OfAddresses := by
  unfold ofShape
  split
  · exact .characters
  · split
    · contradiction
    · rename_i known _
      split
      · exact .handle
      · rename_i value
        exact .pointer (mem_primitives known) value
    · exact .handle
    · contradiction

theorem ofAddresses_mapType {type : String} (addressed : isAddressed type.toList = true) :
    (mapType type).OfAddresses := by
  refine mapType_induction_of_base rfl (fun _ spelling addresses => addresses.withSpelling spelling)
    (fun _ => .handle) ?_ ?_ fun _ _ _ => .array
  · exact ofAddresses_ofShape (indirection_splitExtents addressed)
  · rw [shapeOf_concat_star]
    exact ofAddresses_ofShape (Shape.starred_address _)

variable {m : TypeMapping} (addresses : m.OfAddresses)
include addresses

theorem OfAddresses.passthroughName_eq_none : m.passthroughName = none := by
  induction addresses with
  | handle | characters | pointer => rfl
  | array _ ih => exact ih

theorem OfAddresses.abiName : ∃ lengths name, m.abiName = inlineArrays lengths name ∧
    IsAddressName name := by
  induction addresses with
  | handle => exact ⟨[], nativeHandle, rfl, .handle⟩
  | @characters _ isConst =>
      have listed : ("char", "::core::ffi::c_char") ∈ primitives := by decide
      exact ⟨[], _, rfl, .pointer listed (by decide) isConst 0⟩
  | pointer listed value => exact ⟨[], _, rfl, .pointer listed value _ _⟩
  | @array _ length _ _ ih =>
      obtain ⟨lengths, name, element, address⟩ := ih
      refine ⟨length :: lengths, name, ?_, address⟩
      rw [TypeMapping.abiName, element]
      rfl

end TypeMapping

/-! ## What a field holds -/

/-- A value of the type `type` holds a value of the type called `name`, itself or in arrays. -/
def HoldsByValue (name type : String) : Prop := ∃ lengths, type = inlineArrays lengths name

theorem bracket_mem_inlineArrays (length : UInt64) (lengths : List UInt64) (name : String) :
    '[' ∈ (inlineArrays (length :: lengths) name).toList := by
  simp [inlineArrays]

/-- An array type has its element in one way only. -/
theorem element_inj {element other : String} {length size : UInt64}
    (same : s!"[{element}; {length}]" = s!"[{other}; {size}]") : element = other := by
  -- Read from the end, the first semicolon is the one before the length.
  have reversed (element : String) (length : UInt64) : s!"[{element}; {length}]".toList.reverse =
      (']' :: (toString length).toList.reverse ++ [' ']) ++
        ';' :: (element.toList.reverse ++ ['[']) := by
    simp
  have plain (length : UInt64) : ';' ∉ ']' :: (toString length).toList.reverse ++ [' '] := by
    have digits : ';' ∉ (toString length).toList := fun there =>
      absurd (isWord_toString length.toNat ';' there) (by decide)
    simp [digits]
  have texts := congrArg (fun text : String => text.toList.reverse) same
  rw [reversed, reversed] at texts
  have inner := (append_cons_inj (plain length) (plain size) texts).2
  exact String.toList_inj.mp (List.reverse_injective (List.append_cancel_right inner))

/-- What stands in arrays is found again, unless it is an array itself. -/
theorem eq_of_inlineArrays_eq {lengths lengths' : List UInt64} {name name' : String}
    (plain : '[' ∉ name.toList) (plain' : '[' ∉ name'.toList)
    (same : inlineArrays lengths name = inlineArrays lengths' name') : name = name' := by
  induction lengths generalizing lengths' with
  | nil =>
      cases lengths' with
      | nil => exact same
      | cons length lengths' =>
          have array : name = inlineArrays (length :: lengths') name' := same
          exact absurd (array ▸ bracket_mem_inlineArrays length lengths' name') plain
  | cons length lengths ih =>
      cases lengths' with
      | nil =>
          have array : inlineArrays (length :: lengths) name = name' := same
          exact absurd (array ▸ bracket_mem_inlineArrays length lengths name) plain'
      | cons => exact ih (element_inj same)

theorem bracket_not_mem_pointerTo {pointee : String} (plain : '[' ∉ pointee.toList)
    (isConst : Bool) : '[' ∉ (pointerTo isConst pointee).toList := by
  cases isConst <;> simp [pointerTo, plain]

theorem IsAddressName.bracket_not_mem {name : String} (address : IsAddressName name) :
    '[' ∉ name.toList := by
  cases address with
  | handle => decide
  | pointer listed value isConst extra =>
      have table : ∀ entry ∈ primitives, '[' ∉ entry.2.toList := by decide
      induction extra with
      | zero => exact bracket_not_mem_pointerTo (table _ listed) isConst
      | succ extra ih => exact bracket_not_mem_pointerTo ih false

/-- Of all identifiers only that of native handles is held by addresses. -/
theorem IsAddressName.eq_nativeHandle {name address : String} {lengths : List UInt64}
    (isAddress : IsAddressName address) (plain : ∀ c ∈ name.toList, IsIdentChar c)
    (holds : HoldsByValue name (inlineArrays lengths address)) : name = nativeHandle := by
  have unopened : '[' ∉ name.toList := fun opening => (plain '[' opening).ne (by decide) rfl
  have noStar : '*' ∉ name.toList := fun star => (plain '*' star).ne (by decide) rfl
  obtain ⟨lengths', same⟩ := holds
  have unique : address = name := eq_of_inlineArrays_eq isAddress.bracket_not_mem unopened same
  cases isAddress with
  | handle => exact unique.symm
  | pointer _ _ isConst extra => exact absurd unique (throughPointers_ne noStar isConst _ extra)

theorem DeclarationSet.isIdentChar_of_mem_typeIdents {set : DeclarationSet} {name : String}
    (defined : name ∈ set.typeIdents) : ∀ c ∈ name.toList, IsIdentChar c := by
  have words : IsWord "UnnamedEnum" ∧ IsWord "Unnamed" := ⟨isWord_ofList rfl, isWord_ofList rfl⟩
  simp only [typeIdents_eq, List.mem_append, List.mem_map] at defined
  rcases defined with ((⟨e, -, rfl⟩ | ⟨s, -, rfl⟩) | ⟨t, -, rfl⟩) | ⟨c, -, rfl⟩
  · exact fun _ => mem_ident words.1.isIdentChar
  all_goals exact fun _ => mem_ident words.2.isIdentChar

/-! ## The statement -/

/-- A type that no declaration has a part in: no name is passed through, it is an address in any
number of arrays, and a field of the type holds nothing that the types section defines. The handle
itself is there also when a declaration bears its name. -/
structure FreeOfDeclared (type : String) : Prop where
  passed : (mapType type).passthroughName = none
  abiName : ∃ lengths name, (mapType type).abiName = inlineArrays lengths name ∧ IsAddressName name
  fields : ∀ (fields : List Field) (i : Nat), fields[i]?.map (·.type) = some type →
    ∃ field, (recordFields mapType fields)[i]? = some field ∧
      ∀ set : DeclarationSet, ∀ name ∈ set.typeIdents, HoldsByValue name field.type →
        name = nativeHandle

theorem freeOfDeclared {type : String} (addressed : isAddressed type.toList = true) :
    FreeOfDeclared type := by
  have addresses := TypeMapping.ofAddresses_mapType addressed
  refine
    { passed := addresses.passthroughName_eq_none
      abiName := addresses.abiName
      fields := fun fields i found => ?_ }
  obtain ⟨field, place, spelled⟩ := Option.map_eq_some_iff.mp found
  refine ⟨_, by rw [recordFields, List.getElem?_mapIdx, place, Option.map_some], ?_⟩
  rintro set name defined holds
  obtain ⟨lengths, address, whole, isAddress⟩ := addresses.abiName
  dsimp only at holds
  rw [spelled, whole] at holds
  exact isAddress.eq_nativeHandle (DeclarationSet.isIdentChar_of_mem_typeIdents defined) holds

/-- The children of a node that are given by pointers. -/
theorem freeOfDeclared_children :
    isAddressed "struct Node *volatile [ 2 ][]".toList = true ∧
      FreeOfDeclared "struct Node *volatile [ 2 ][]" :=
  ⟨by decide, freeOfDeclared (by decide)⟩

/-- A struct that refers to itself. -/
example : ((⟨"Node", [⟨"next", "Node&"⟩, ⟨"rows", "const Node *[2]"⟩], none⟩ : StructDecl).item
    mapType).fields.map (·.type) = ["NativeHandle", "[NativeHandle; 2]"] := by decide

end ForeignBindings
