import ForeignBindings.Proofs.ArrayExtents
import ForeignBindings.Proofs.Text.Pieces

/-!
# Shapes of types

A type without brackets that is no function pointer is mapped by its shape alone
(`mapType_eq_ofShape`). A star behind it adds one level of indirection and leaves the base name and
the constness as they are (`shapeOf_concat_star`), although constness is decided by comparing offsets
that count every separator as one byte. A closing parenthesis at its end stays at the end of the base
name (`getLast?_base_shapeOf`), so that no table knows such a type.
-/

namespace ForeignBindings
open CType Text

namespace CType

theorem isBlank_of_isDecoration {c : Char} (mark : isDecoration c = true) : isBlank c = false := by
  rw [isDecoration, Bool.or_eq_true, beq_iff_eq, beq_iff_eq] at mark
  rcases mark with rfl | rfl <;> decide

/-! ## A star behind a type -/

/-- The bytes that some words take up, with a separator of one byte behind each of them. -/
def spannedBytes : List (List Char) → Nat
  | [] => 0
  | word :: words => byteLength word + 1 + spannedBytes words

/-- A separator takes one byte or more, so that the words of a text never span more than the text
and one separator. -/
theorem spannedBytes_splitOnP_le (p : Char → Bool) (cs : List Char) :
    spannedBytes (cs.splitOnP p) ≤ byteLength cs + 1 := by
  induction cs with
  | nil => simp [spannedBytes, byteLength]
  | cons c cs ih =>
      have wide : 0 < c.utf8Size := c.utf8Size_pos
      rw [List.splitOnP_cons_eq_if_modifyHead]
      by_cases separator : p c
      · rw [if_pos separator]
        simp only [spannedBytes, byteLength] at ih ⊢
        omega
      · rw [if_neg separator]
        obtain ⟨word, words, whole⟩ := List.exists_cons_of_ne_nil (List.splitOnP_ne_nil p cs)
        rw [whole] at ih ⊢
        simp only [spannedBytes, List.modifyHead_cons, byteLength] at ih ⊢
        omega

theorem constBefore_of_mem {limit offset : Nat} {words : List (List Char)}
    (member : "const".toList ∈ words) (fits : offset + spannedBytes words ≤ limit + 1) :
    constBefore limit offset words = true := by
  -- The offset grows by what the words span less, so that the sum of both stays the same.
  induction words generalizing offset with
  | nil => cases member
  | cons word words ih =>
      rw [spannedBytes] at fits
      rw [constBefore, Bool.or_eq_true]
      rcases List.mem_cons.mp member with rfl | member
      · have letters : byteLength "const".toList = 5 := by decide
        have inside : offset < limit := by omega
        exact .inl (by simp [inside])
      · exact .inr (ih member (by omega))

theorem constBefore_concat_nil (limit offset : Nat) (words : List (List Char)) :
    constBefore limit offset (words ++ [[]]) = constBefore limit offset words := by
  induction words generalizing offset with
  | nil => simp [constBefore]
  | cons word words ih => rw [List.cons_append, constBefore, constBefore, ih]

theorem splitOnP_concat_star (cs : List Char) :
    (cs ++ ['*']).splitOnP isSeparator = cs.splitOnP isSeparator ++ [[]] := by
  rw [List.splitOnP_append_cons cs [] (by decide), List.splitOnP_nil]

theorem base_concat_star (cs : List Char) : (shapeOf (cs ++ ['*'])).base = (shapeOf cs).base := by
  have empty : [String.ofList []].filter isBaseWord = [] := by decide
  simp only [shapeOf, splitOnP_concat_star, List.map_append, List.filter_append, List.map_cons,
    List.map_nil, empty, List.append_nil]

theorem indirection_concat_star (cs : List Char) :
    indirection (cs ++ ['*']) = indirection cs + 1 := by
  simp [indirection]
  omega

theorem takeWhile_concat_star (cs : List Char) :
    (cs ++ ['*']).takeWhile (!isDecoration ·) = cs.takeWhile (!isDecoration ·) := by
  rw [List.takeWhile_append]
  split
  · rename_i whole
    rw [(List.takeWhile_prefix _).eq_of_length whole]
    exact List.append_nil cs
  · rfl

theorem indirection_eq_zero_iff {cs : List Char} :
    indirection cs = 0 ↔ ∀ c ∈ cs, isDecoration c = false := by
  have marks : (∀ c ∈ cs, isDecoration c = false) ↔ '*' ∉ cs ∧ '&' ∉ cs := by
    simp only [isDecoration, Bool.or_eq_false_iff, beq_eq_false_iff_ne, ne_eq]
    constructor
    · intro plain
      exact ⟨fun star => (plain _ star).1 rfl, fun ampersand => (plain _ ampersand).2 rfl⟩
    · rintro ⟨noStar, noAmpersand⟩ c member
      exact ⟨fun star => noStar (star ▸ member), fun ampersand => noAmpersand (ampersand ▸ member)⟩
  rw [marks, indirection, Nat.add_eq_zero_iff, List.count_eq_zero]
  simp

/-- In a type without indirection every `const` stands before the place where a star would. -/
theorem constBefore_of_value {cs : List Char} (value : indirection cs = 0)
    (member : "const".toList ∈ cs.splitOnP isSeparator) :
    constBefore (byteLength (cs.takeWhile (!isDecoration ·))) 0 (cs.splitOnP isSeparator) =
      true := by
  have plain : ∀ c ∈ cs, (!isDecoration c) = true := fun c inText => by
    rw [indirection_eq_zero_iff.mp value c inText, Bool.not_false]
  rw [List.takeWhile_eq_self_iff.mpr plain]
  refine constBefore_of_mem member ?_
  rw [Nat.zero_add]
  exact spannedBytes_splitOnP_le isSeparator cs

/-- Without indirection every `const` stands before the end, so that looking for one anywhere finds
nothing more. -/
theorem isConst_shapeOf (cs : List Char) : (shapeOf cs).isConst =
    constBefore (byteLength (cs.takeWhile (!isDecoration ·))) 0 (cs.splitOnP isSeparator) := by
  simp only [shapeOf]
  by_cases counted : indirection cs = 0 ∧ "const".toList ∈ cs.splitOnP isSeparator
  · rw [constBefore_of_value counted.1 counted.2, Bool.true_or]
  · have uncounted : (indirection cs == 0 &&
        (cs.splitOnP isSeparator).contains "const".toList) = false := by
      rw [← Bool.not_eq_true, Bool.and_eq_true, beq_iff_eq, List.contains_iff_mem]
      exact counted
    rw [uncounted, Bool.or_false]

theorem isConst_concat_star (cs : List Char) :
    (shapeOf (cs ++ ['*'])).isConst = (shapeOf cs).isConst := by
  rw [isConst_shapeOf, isConst_shapeOf, takeWhile_concat_star, splitOnP_concat_star,
    constBefore_concat_nil]

/-- The shape with a star behind it. -/
def Shape.starred (shape : Shape) : Shape := { shape with indirection := shape.indirection + 1 }

@[simp] theorem Shape.base_starred (shape : Shape) : shape.starred.base = shape.base := rfl

@[simp] theorem Shape.isConst_starred (shape : Shape) : shape.starred.isConst = shape.isConst := rfl

@[simp] theorem Shape.indirection_starred (shape : Shape) :
    shape.starred.indirection = shape.indirection + 1 := rfl

theorem Shape.starred_address (shape : Shape) : shape.starred.indirection ≠ 0 :=
  Nat.succ_ne_zero _

theorem shapeOf_concat_star (cs : List Char) : shapeOf (cs ++ ['*']) = (shapeOf cs).starred := by
  calc shapeOf (cs ++ ['*'])
      = ⟨(shapeOf (cs ++ ['*'])).base, (shapeOf (cs ++ ['*'])).isConst, indirection (cs ++ ['*'])⟩ :=
        rfl
    _ = ⟨(shapeOf cs).base, (shapeOf cs).isConst, indirection cs + 1⟩ := by
        rw [base_concat_star, isConst_concat_star, indirection_concat_star]

/-! ## A parenthesis at the end of a type -/

theorem afterLastScope_suffix {cs rest : List Char} (found : afterLastScope cs = some rest) :
    ∃ before, cs = before ++ ':' :: ':' :: rest := by
  induction cs with
  | nil => cases found
  | cons c cs ih =>
      unfold afterLastScope at found
      cases later : afterLastScope cs with
      | some other =>
          rw [later] at found ih
          obtain rfl := Option.some.inj found
          obtain ⟨before, whole⟩ := ih rfl
          exact ⟨c :: before, by rw [whole, List.cons_append]⟩
      | none =>
          rw [later] at found
          dsimp only at found
          split at found
          · rename_i scope
            obtain ⟨first, second⟩ := Bool.and_eq_true_iff.mp scope
            obtain rfl := of_decide_eq_true first
            obtain ⟨tail, rfl⟩ := List.head?_eq_some_iff.mp (of_decide_eq_true second)
            obtain rfl := Option.some.inj found
            exact ⟨[], rfl⟩
          · cases found

theorem getLast?_baseName {words : List String} {word : String} {c : Char}
    (last : word.toList.getLast? = some c) (visible : isBlank c = false) (noColon : c ≠ ':') :
    (baseName (words ++ [word])).toList.getLast? = some c := by
  have joined : (" ".intercalate (words ++ [word])).toList.getLast? = some c := by
    by_cases alone : words = []
    · rw [alone, List.nil_append, String.intercalate_singleton]
      exact last
    · rw [String.intercalate_append_of_ne_nil alone (List.cons_ne_nil word []),
        String.intercalate_singleton, String.toList_append, List.getLast?_append, last,
        Option.some_or]
  unfold baseName
  dsimp only
  split
  · rename_i rest found
    obtain ⟨before, whole⟩ := afterLastScope_suffix found
    rw [String.toList_ofList]
    refine getLast?_trim ?_ visible
    rw [whole, List.getLast?_append_cons, List.getLast?_cons_cons] at joined
    cases rest with
    | nil => exact absurd (Option.some.inj joined).symm noColon
    | cons d rest => rwa [List.getLast?_cons_cons] at joined
  · exact joined

/-- A word with a parenthesis in it is none of the words that are taken off. -/
theorem isBaseWord_of_parenthesis {word : String} (parenthesis : ')' ∈ word.toList) :
    isBaseWord word = true := by
  have plain : ∀ w ∈ "" :: "const" :: (qualifiers ++ tags), ')' ∉ w.toList := by decide
  have other : word ∉ "" :: "const" :: (qualifiers ++ tags) :=
    fun listed => plain word listed parenthesis
  simp only [List.mem_cons, List.mem_append, not_or] at other
  obtain ⟨visible, noConst, noQualifier, noTag⟩ := other
  simp [isBaseWord, visible, noConst, noQualifier, noTag]

theorem getLast?_base_shapeOf {cs : List Char} (closed : cs.getLast? = some ')') :
    (shapeOf cs).base.toList.getLast? = some ')' := by
  obtain ⟨front, rfl⟩ := List.getLast?_eq_some_iff.mp closed
  have plain : isSeparator ')' = false := by decide
  obtain ⟨before, word, -, words⟩ := exists_last_splitOnP (List.forall_mem_singleton.mpr plain) front
  have parenthesis : ')' ∈ (String.ofList (word ++ [')'])).toList := by
    rw [String.toList_ofList]
    exact List.mem_append_right word (List.mem_singleton_self ')')
  have kept : ([word ++ [')']].map String.ofList).filter isBaseWord =
      [String.ofList (word ++ [')'])] :=
    List.filter_eq_self.mpr (List.forall_mem_singleton.mpr (isBaseWord_of_parenthesis parenthesis))
  simp only [shapeOf, words, List.map_append, List.filter_append, kept]
  refine getLast?_baseName ?_ (by decide) (by decide)
  rw [String.toList_ofList, List.getLast?_concat]

/-! ## Shapes that a table knows -/

theorem primitive?_eq_none_of_parenthesis {base : String}
    (closed : base.toList.getLast? = some ')') : primitive? base = none := by
  have table : ∀ entry ∈ primitives, entry.1.toList.getLast? ≠ some ')' := by decide
  cases found : primitive? base with
  | none => rfl
  | some name => exact absurd closed (table (base, name) (mem_primitives found))

namespace Shape

theorem spelling_of_pointer {shape : Shape} (single : shape.indirection = 1) :
    shape.spelling = (if shape.isConst then "const " else "") ++ shape.base ++ "*" := by
  rw [spelling, single]
  rfl

theorem spelling_eq_mutable_iff {shape : Shape} (single : shape.indirection = 1) :
    shape.spelling = "char*" ↔ shape.base = "char" ∧ shape.isConst = false := by
  have form : "char*" = "char" ++ "*" := by decide
  rw [spelling_of_pointer single, form, String.append_left_inj]
  cases shape.isConst with
  | false => simp
  | true =>
      refine iff_of_false (fun same => ?_) (by simp)
      have chars := congrArg (fun text : String => text.toList.take 2) same
      simp at chars

theorem spelling_eq_const_iff {shape : Shape} (single : shape.indirection = 1) :
    shape.spelling = "const char*" ↔
      shape.base = "char" ∧ shape.isConst = true ∨
        shape.base = "const char" ∧ shape.isConst = false := by
  have form : "const char*" = "const " ++ "char" ++ "*" := by decide
  have hidden : "const char" = "const " ++ "char" := by decide
  rw [spelling_of_pointer single, form, String.append_left_inj, hidden]
  cases shape.isConst with
  | false => simp
  | true =>
      rw [if_pos rfl, String.append_right_inj]
      simp

/-- A shape is spelled as a pointer to characters when its base name is `char`, and also when the
word `const` has stayed in the base name. -/
theorem characterPointer?_eq_some_iff {shape : Shape} {isConst : Bool} :
    shape.characterPointer? = some isConst ↔ shape.indirection = 1 ∧
      (shape.base = "char" ∧ shape.isConst = isConst ∨
        shape.base = "const char" ∧ shape.isConst = false ∧ isConst = true) := by
  by_cases single : shape.indirection = 1
  · have mutableForm := spelling_eq_mutable_iff single
    have constForm := spelling_eq_const_iff single
    rw [characterPointer?, if_neg (not_not_intro single), and_iff_right single]
    split
    · rename_i spelled
      obtain ⟨base, isMutable⟩ := mutableForm.mp spelled
      simp [base, isMutable]
    · rename_i noMutable
      rw [mutableForm] at noMutable
      split
      · rename_i spelled
        rcases constForm.mp spelled with ⟨base, readOnly⟩ | ⟨base, hidden⟩
        · simp [base, readOnly]
        · simp [base, hidden, eq_comm]
      · rename_i noConst
        rw [constForm] at noConst
        refine iff_of_false nofun ?_
        rintro (⟨base, -⟩ | ⟨base, hidden, -⟩)
        · cases readOnly : shape.isConst with
          | false => exact noMutable ⟨base, readOnly⟩
          | true => exact noConst (.inl ⟨base, readOnly⟩)
        · exact noConst (.inr ⟨base, hidden⟩)
  · simp [characterPointer?, single]

end Shape

end CType

/-- No parenthesis and no bracket stands in the text. -/
def isUnbracketed (cs : List Char) : Bool := cs.all fun c => c ∉ ['(', ')', '[', ']']

theorem not_mem_of_isUnbracketed {cs : List Char} {c : Char} (plain : isUnbracketed cs = true)
    (bracket : c ∈ ['(', ')', '[', ']']) : c ∉ cs :=
  fun member => of_decide_eq_true (List.all_eq_true.mp plain c member) bracket

/-- The shape of a type, the blank characters around it aside. -/
def typeShape (type : String) : CType.Shape := shapeOf (trim type.toList)

/-! ## Types without brackets -/

namespace TypeMapping

theorem ofShape_of_characters {shape : CType.Shape} {isConst : Bool}
    (characters : shape.characterPointer? = some isConst) (spelling : String) :
    ofShape spelling shape = plain spelling isConst .characters := by
  rw [ofShape, characters]

theorem ofShape_of_unknown {shape : CType.Shape} (noText : shape.characterPointer? = none)
    (unknown : primitive? shape.base = none) (address : shape.indirection ≠ 0) (spelling : String) :
    ofShape spelling shape = plain spelling shape.isConst .handle := by
  obtain ⟨extra, indirect⟩ := Nat.exists_eq_succ_of_ne_zero address
  rw [ofShape, noText, unknown, indirect]

/-- A shape whose base name ends with a parenthesis is an address of something that no table
knows. -/
theorem ofShape_of_parenthesis {shape : CType.Shape}
    (closed : shape.base.toList.getLast? = some ')') (address : shape.indirection ≠ 0)
    (spelling : String) : ofShape spelling shape = plain spelling shape.isConst .handle := by
  refine ofShape_of_unknown ?_ (primitive?_eq_none_of_parenthesis closed) address spelling
  have unclosed : "char".toList.getLast? ≠ some ')' ∧ "const char".toList.getLast? ≠ some ')' := by
    decide
  rw [Option.eq_none_iff_forall_ne_some]
  intro isConst text
  obtain ⟨-, ⟨char, -⟩ | ⟨char, -, -⟩⟩ := Shape.characterPointer?_eq_some_iff.mp text
  · exact unclosed.1 (char ▸ closed)
  · exact unclosed.2 (char ▸ closed)

end TypeMapping

theorem splitExtents_of_plain {cs : List Char} (plain : '[' ∉ cs) : splitExtents cs = (cs, []) := by
  have before : ∀ c ∈ cs, (c != '[') = true := fun c member =>
    bne_iff_ne.mpr fun opening => plain (opening ▸ member)
  rw [splitExtents, List.dropWhile_eq_nil_iff.mpr before, List.takeWhile_eq_self_iff.mpr before]

theorem read?_of_primitive {type name : String}
    (known : primitive? (typeShape type).base = some name) :
    FunctionPointer.read? (trim type.toList) = none := by
  refine read?_eq_none fun closing => ?_
  rw [trim_trim] at closing
  have unknown := primitive?_eq_none_of_parenthesis (getLast?_base_shapeOf closing)
  rw [typeShape, unknown] at known
  cases known

theorem read?_of_plain {type : String} (plain : ')' ∉ type.toList) :
    FunctionPointer.read? (trim type.toList) = none := by
  refine read?_eq_none fun closing => ?_
  rw [trim_trim] at closing
  exact plain (mem_of_mem_trim (List.mem_of_getLast? closing))

/-- A type without brackets is mapped as an element is. -/
theorem mapType_eq_ofElement {type : String} (plain : '[' ∉ type.toList) :
    mapType type = TypeMapping.ofElement (trim type.toList) := by
  have unopened : '[' ∉ trim type.toList := fun member => plain (mem_of_mem_trim member)
  unfold mapType TypeMapping.ofText TypeMapping.ofElement
  dsimp only
  rw [splitExtents_of_plain unopened]

/-- A type without brackets that is no function pointer is mapped by its shape. -/
theorem mapType_eq_ofShape {type : String} (plain : '[' ∉ type.toList)
    (noFunction : FunctionPointer.read? (trim type.toList) = none) :
    mapType type = TypeMapping.ofShape (String.ofList (trim type.toList)) (typeShape type) := by
  rw [mapType_eq_ofElement plain, TypeMapping.ofElement, noFunction, typeShape]
  exact if_neg (by decide)

end ForeignBindings
