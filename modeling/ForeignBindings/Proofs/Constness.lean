import ForeignBindings.Proofs.Shape

/-!
# Where `const` stands

A word `const` before the first mark of indirection makes what is pointed at constant; behind a mark
it is about the pointer. Mapping compares the offset of the word, with one byte counted for every
separator, with the offset of the first mark, where every byte counts. So it never misses a `const`
before the mark, but takes one behind it for one before it when blank characters of several bytes
stand before the word. `readsConst` says exactly when.
-/

namespace ForeignBindings
open CType Text

namespace CType

/-! ## Places of words -/

/-- A word stands in a text between `front` and `back`: each of them is empty or has a separator next
to the word. -/
structure StandsBetween (word cs front back : List Char) : Prop where
  whole : cs = front ++ word ++ back
  opened : ∀ c, front.getLast? = some c → isSeparator c = true
  closed : ∀ c, back.head? = some c → isSeparator c = true

/-- No separator stands in the word. -/
theorem plain_const : ∀ c ∈ "const".toList, isSeparator c = false := by
  have letters : ("const".toList.all fun c => !isSeparator c) = true := by decide
  exact fun c member => by simpa using List.all_eq_true.mp letters c member

theorem unmarked_const {c : Char} (member : c ∈ "const".toList) : isDecoration c = false :=
  (Bool.or_eq_false_iff.mp (plain_const c member)).2

/-- What ends in a separator still does behind more text that does. -/
theorem opened_append_cons_iff {c : Char} (separator : isSeparator c = true)
    (front later : List Char) :
    (∀ d, (front ++ c :: later).getLast? = some d → isSeparator d = true) ↔
      ∀ d, later.getLast? = some d → isSeparator d = true := by
  rw [List.getLast?_append_cons, List.getLast?_cons]
  cases later.getLast? <;> simp [separator]

section

variable {word run : List Char} (plainWord : ∀ c ∈ word, isSeparator c = false)
  (plain : ∀ c ∈ run, isSeparator c = false)
include plain

/-- A text without separators is one word. -/
theorem standsBetween_run_iff {front back : List Char} :
    StandsBetween word run front back ↔ word = run ∧ front = [] ∧ back = [] := by
  constructor
  · rintro ⟨rfl, opened, closed⟩
    have noFront : front = [] := by
      cases last : front.getLast? with
      | none => exact List.getLast?_eq_none_iff.mp last
      | some c =>
          have inside := plain c (by simp [List.mem_of_getLast? last])
          rw [opened c last] at inside
          cases inside
    have noBack : back = [] := by
      cases back with
      | nil => rfl
      | cons c back =>
          have inside := plain c (by simp)
          rw [closed c rfl] at inside
          cases inside
    simp [noFront, noBack]
  · rintro ⟨rfl, rfl, rfl⟩
    exact ⟨by simp, nofun, nofun⟩

include plainWord

/-- A word of a text is the first one or stands behind the first separator. -/
theorem standsBetween_append_cons_iff {c : Char} {cs front back : List Char}
    (separator : isSeparator c = true) :
    StandsBetween word (run ++ c :: cs) front back ↔
      (word = run ∧ front = [] ∧ back = c :: cs) ∨
        ∃ later, front = run ++ c :: later ∧ StandsBetween word cs later back := by
  constructor
  · rintro ⟨whole, opened, closed⟩
    rcases List.eq_nil_or_concat front with rfl | ⟨front, d, rfl⟩
    · left
      rw [List.nil_append] at whole
      cases back with
      | nil =>
          rw [List.append_nil] at whole
          rw [plainWord c (by simp [← whole])] at separator
          cases separator
      | cons d back =>
          obtain rfl : word = run := by
            rw [← takeWhile_not_append_cons plainWord (closed d rfl) back, ← whole,
              takeWhile_not_append_cons plain separator]
          exact ⟨rfl, rfl, (List.append_cancel_left whole).symm⟩
    · right
      have mark : isSeparator d = true := opened d (by simp)
      have split : run ++ c :: cs = front ++ d :: (word ++ back) := by simpa using whole
      obtain ⟨later, reached, rfl⟩ := exists_behind_first plain mark split
      rw [List.concat_eq_append, reached, opened_append_cons_iff separator] at opened
      exact ⟨later, by rw [List.concat_eq_append, reached], by simp, opened, closed⟩
  · rintro (⟨rfl, rfl, rfl⟩ | ⟨later, rfl, rfl, opened, closed⟩)
    · exact ⟨by simp, nofun, fun d first => Option.some.inj first ▸ separator⟩
    · exact ⟨by simp, (opened_append_cons_iff separator run later).mpr opened, closed⟩

end

/-! ## Offsets of words -/

/-- The bytes of blank characters beyond the one that is counted for each of them. -/
def uncounted : List Char → Nat
  | [] => 0
  | c :: cs => (if isBlank c then c.utf8Size - 1 else 0) + uncounted cs

theorem uncounted_append (front back : List Char) :
    uncounted (front ++ back) = uncounted front + uncounted back := by
  induction front with
  | nil => simp [uncounted]
  | cons c front ih => rw [List.cons_append, uncounted, ih, uncounted, Nat.add_assoc]

theorem byteLength_append (front back : List Char) :
    byteLength (front ++ back) = byteLength front + byteLength back := by
  induction front with
  | nil => simp [byteLength]
  | cons c front ih => rw [List.cons_append, byteLength, ih, byteLength, Nat.add_assoc]

theorem uncounted_of_plain {run : List Char} (plain : ∀ c ∈ run, isSeparator c = false) :
    uncounted run = 0 := by
  induction run with
  | nil => rfl
  | cons c run ih =>
      obtain ⟨head, tail⟩ := List.forall_mem_cons.mp plain
      rw [isSeparator, Bool.or_eq_false_iff] at head
      rw [uncounted, head.1, ih tail]
      rfl

theorem utf8Size_separator {c : Char} (separator : isSeparator c = true) :
    c.utf8Size = 1 + if isBlank c then c.utf8Size - 1 else 0 := by
  have wide := c.utf8Size_pos
  split
  · omega
  · rename_i visible
    simp only [isSeparator, visible, isDecoration, Bool.false_or, Bool.or_eq_true, beq_iff_eq] at separator
    rcases separator with rfl | rfl <;> decide

/-- The comparison of offsets finds the words `const` whose offset is below the limit when one byte
is counted for every separator. -/
theorem constBefore_iff {run : List Char} (plain : ∀ c ∈ run, isSeparator c = false)
    (cs : List Char) (limit offset : Nat) :
    constBefore limit offset ((run ++ cs).splitOnP isSeparator) = true ↔
      ∃ front back, StandsBetween "const".toList (run ++ cs) front back ∧
        offset + byteLength front < limit + uncounted front := by
  have here (run : List Char) (offset : Nat) :
      (run == "const".toList && decide (offset < limit)) = true ↔
        "const".toList = run ∧ offset < limit := by
    rw [Bool.and_eq_true, beq_iff_eq, decide_eq_true_iff, eq_comm]
  induction cs generalizing run offset with
  | nil =>
      rw [List.append_nil, List.splitOnP_eq_singleton plain, constBefore, constBefore, Bool.or_false,
        here]
      simp only [standsBetween_run_iff plain]
      constructor
      · rintro ⟨word, before⟩
        exact ⟨[], [], ⟨word, rfl, rfl⟩, before⟩
      · rintro ⟨_, _, ⟨word, rfl, rfl⟩, before⟩
        exact ⟨word, before⟩
  | cons c cs ih =>
      by_cases separator : isSeparator c = true
      · have width := utf8Size_separator separator
        have size (later : List Char) : byteLength (run ++ c :: later) =
            byteLength run + c.utf8Size + byteLength later := by
          rw [byteLength_append, byteLength, Nat.add_assoc]
        have lost (later : List Char) : uncounted (run ++ c :: later) =
            (if isBlank c then c.utf8Size - 1 else 0) + uncounted later := by
          rw [uncounted_append, uncounted_of_plain plain, Nat.zero_add, uncounted]
        have later : constBefore limit (offset + byteLength run + 1) (cs.splitOnP isSeparator) =
            true ↔ ∃ front back, StandsBetween "const".toList cs front back ∧
              offset + byteLength run + 1 + byteLength front < limit + uncounted front :=
          @ih [] (List.forall_mem_nil _) (offset + byteLength run + 1)
        rw [List.splitOnP_append_cons_of_forall_mem plain c separator, constBefore, Bool.or_eq_true,
          here, later]
        simp only [standsBetween_append_cons_iff plain_const plain separator]
        constructor
        · rintro (⟨word, before⟩ | ⟨front, back, stands, before⟩)
          · exact ⟨[], c :: cs, .inl ⟨word, rfl, rfl⟩, before⟩
          · refine ⟨run ++ c :: front, back, .inr ⟨front, rfl, stands⟩, ?_⟩
            rw [size, lost]
            omega
        · rintro ⟨_, back, ⟨word, rfl, rfl⟩ | ⟨front, rfl, stands⟩, before⟩
          · exact .inl ⟨word, before⟩
          · refine .inr ⟨front, back, stands, ?_⟩
            rw [size, lost] at before
            omega
      · have longer : ∀ d ∈ run ++ [c], isSeparator d = false :=
          List.forall_mem_append.mpr ⟨plain, by simpa using separator⟩
        have joined : run ++ c :: cs = run ++ [c] ++ cs := by simp
        rw [joined]
        exact ih longer offset

theorem constBefore_splitOnP_iff (cs : List Char) (limit : Nat) :
    constBefore limit 0 (cs.splitOnP isSeparator) = true ↔
      ∃ front back, StandsBetween "const".toList cs front back ∧
        byteLength front < limit + uncounted front := by
  have offsets := @constBefore_iff [] (List.forall_mem_nil _) cs limit 0
  simpa only [List.nil_append, Nat.zero_add] using offsets

theorem mem_of_constBefore {limit offset : Nat} {words : List (List Char)}
    (found : constBefore limit offset words = true) : "const".toList ∈ words := by
  induction words generalizing offset with
  | nil => cases found
  | cons word words ih =>
      rw [constBefore, Bool.or_eq_true, Bool.and_eq_true, beq_iff_eq] at found
      rcases found with ⟨rfl, -⟩ | found
      · exact List.mem_cons_self
      · exact List.mem_cons_of_mem word (ih found)

theorem mem_splitOnP_iff {cs : List Char} : "const".toList ∈ cs.splitOnP isSeparator ↔
    ∃ front back, StandsBetween "const".toList cs front back := by
  constructor
  · intro member
    have fits : 0 + spannedBytes (cs.splitOnP isSeparator) ≤ byteLength cs + 1 := by
      rw [Nat.zero_add]
      exact spannedBytes_splitOnP_le isSeparator cs
    obtain ⟨front, back, stands, -⟩ :=
      (constBefore_splitOnP_iff cs _).mp (constBefore_of_mem member fits)
    exact ⟨front, back, stands⟩
  · rintro ⟨front, back, stands⟩
    have found : constBefore (byteLength front + 1) 0 (cs.splitOnP isSeparator) = true :=
      (constBefore_splitOnP_iff cs _).mpr ⟨front, back, stands, by omega⟩
    exact mem_of_constBefore found

/-! ## Words before and behind the first mark -/

/-- A word `const` applies to what is pointed at: it stands before the first mark, or there is no
mark at all. -/
inductive AppliesConst (cs : List Char) : Prop
  | beforeMark {front back} : StandsBetween "const".toList cs front back →
      (∀ c ∈ front, isDecoration c = false) → (∃ c ∈ back, isDecoration c = true) → AppliesConst cs
  | unmarked {front back} : StandsBetween "const".toList cs front back →
      (∀ c ∈ cs, isDecoration c = false) → AppliesConst cs

/-- A word `const` behind the first mark is taken for one before it: the blank characters before the
word have more bytes beyond the ones that are counted than stand between the mark and the word. -/
structure MisplacesConst (cs before between back : List Char) : Prop where
  stands : StandsBetween "const".toList cs (before ++ between) back
  unmarked : ∀ c ∈ before, isDecoration c = false
  marked : ∃ c, between.head? = some c ∧ isDecoration c = true
  overtakes : byteLength between < uncounted (before ++ between)

theorem appliesConst_iff {cs : List Char} : AppliesConst cs ↔
    ∃ front back, StandsBetween "const".toList cs front back ∧
      ∀ c ∈ front, isDecoration c = false := by
  constructor
  · rintro (⟨stands, unmarked, -⟩ | ⟨stands, unmarked⟩)
    · exact ⟨_, _, stands, unmarked⟩
    · exact ⟨_, _, stands, fun c member => unmarked c (by simp [stands.whole, member])⟩
  · rintro ⟨front, back, stands, unmarked⟩
    by_cases marked : ∃ c ∈ back, isDecoration c = true
    · exact .beforeMark stands unmarked marked
    · refine .unmarked stands fun c member => ?_
      push Not at marked
      rw [stands.whole, List.mem_append, List.mem_append] at member
      rcases member with (member | member) | member
      · exact unmarked c member
      · exact unmarked_const member
      · exact Bool.eq_false_iff.mpr (marked c member)

theorem byteLength_lt_of_unmarked {cs front back : List Char}
    (stands : StandsBetween "const".toList cs front back)
    (unmarked : ∀ c ∈ front, isDecoration c = false) :
    byteLength front < byteLength (cs.takeWhile (!isDecoration ·)) := by
  have word : ∀ c ∈ "const".toList, (!isDecoration c) = true := fun c member => by
    rw [unmarked_const member, Bool.not_false]
  have letters : byteLength "const".toList = 5 := by decide
  rw [stands.whole, List.append_assoc, List.takeWhile_append_of_pos (by simpa using unmarked),
    List.takeWhile_append_of_pos word, byteLength_append, byteLength_append, letters]
  omega

theorem takeWhile_of_marked {before between rest : List Char}
    (unmarked : ∀ c ∈ before, isDecoration c = false)
    (marked : ∃ c, between.head? = some c ∧ isDecoration c = true) :
    (before ++ between ++ rest).takeWhile (!isDecoration ·) = before := by
  obtain ⟨c, first, mark⟩ := marked
  obtain ⟨between, rfl⟩ := List.head?_eq_some_iff.mp first
  rw [List.append_assoc, List.cons_append, takeWhile_not_append_cons unmarked mark]

theorem exists_first_mark {front : List Char} (marked : ¬∀ c ∈ front, isDecoration c = false) :
    ∃ before between, front = before ++ between ∧ (∀ c ∈ before, isDecoration c = false) ∧
      ∃ c, between.head? = some c ∧ isDecoration c = true := by
  refine ⟨front.takeWhile (!isDecoration ·), front.dropWhile (!isDecoration ·),
    List.takeWhile_append_dropWhile.symm, fun c member => ?_, ?_⟩
  · simpa using List.mem_takeWhile_imp member
  · cases first : (front.dropWhile (!isDecoration ·)).head? with
    | none =>
        refine absurd (fun c member => ?_) marked
        have all := List.dropWhile_eq_nil_iff.mp (List.head?_eq_none_iff.mp first) c member
        simpa using all
    | some c => exact ⟨c, rfl, by simpa using not_of_head?_dropWhile first⟩

theorem isConst_shapeOf_iff (cs : List Char) : (shapeOf cs).isConst = true ↔
    AppliesConst cs ∨ ∃ before between back, MisplacesConst cs before between back := by
  rw [isConst_shapeOf, constBefore_splitOnP_iff, appliesConst_iff]
  constructor
  · rintro ⟨front, back, stands, early⟩
    by_cases unmarked : ∀ c ∈ front, isDecoration c = false
    · exact .inl ⟨front, back, stands, unmarked⟩
    · obtain ⟨before, between, rfl, unmarked, marked⟩ := exists_first_mark unmarked
      have limit : cs.takeWhile (!isDecoration ·) = before := by
        rw [stands.whole, List.append_assoc, takeWhile_of_marked unmarked marked]
      rw [limit, byteLength_append] at early
      exact .inr ⟨before, between, back, stands, unmarked, marked, by omega⟩
  · rintro (⟨front, back, stands, unmarked⟩ | ⟨before, between, back, misplaced⟩)
    · have := byteLength_lt_of_unmarked stands unmarked
      exact ⟨front, back, stands, by omega⟩
    · obtain ⟨stands, unmarked, marked, overtakes⟩ := misplaced
      refine ⟨before ++ between, back, stands, ?_⟩
      have limit : cs.takeWhile (!isDecoration ·) = before := by
        rw [stands.whole, List.append_assoc, takeWhile_of_marked unmarked marked]
      rw [limit, byteLength_append]
      omega

/-! ## Words of the text before the first mark -/

/-- Before the first mark, words are cut off at the mark as they are at a separator. -/
theorem exists_standsBetween_takeWhile_iff {cs front : List Char} :
    (∃ back, StandsBetween "const".toList (cs.takeWhile (!isDecoration ·)) front back) ↔
      ∃ back, StandsBetween "const".toList cs front back ∧ ∀ c ∈ front, isDecoration c = false := by
  have word : ∀ c ∈ "const".toList, (!isDecoration c) = true := fun c member => by
    rw [unmarked_const member, Bool.not_false]
  constructor
  · rintro ⟨back, whole, opened, closed⟩
    refine ⟨back ++ cs.dropWhile (!isDecoration ·), ⟨?_, opened, fun c first => ?_⟩,
      fun c member => ?_⟩
    · rw [← List.append_assoc, ← whole, List.takeWhile_append_dropWhile]
    · rw [List.head?_append, Option.or_eq_some_iff] at first
      rcases first with inner | ⟨-, behind⟩
      · exact closed c inner
      · have mark := not_of_head?_dropWhile behind
        rw [Bool.not_eq_false'] at mark
        rw [isSeparator, mark, Bool.or_true]
    · have taken : c ∈ cs.takeWhile (!isDecoration ·) := by simp [whole, member]
      simpa using List.mem_takeWhile_imp taken
  · rintro ⟨back, ⟨rfl, opened, closed⟩, unmarked⟩
    refine ⟨back.takeWhile (!isDecoration ·), ?_, opened, fun c first => ?_⟩
    · rw [List.append_assoc, List.takeWhile_append_of_pos (by simpa using unmarked),
        List.takeWhile_append_of_pos word, List.append_assoc]
    · rw [List.head?_takeWhile, Option.filter_eq_some_iff] at first
      exact closed c first.1

theorem appliesConst_iff_mem {cs : List Char} : AppliesConst cs ↔
    "const".toList ∈ (cs.takeWhile (!isDecoration ·)).splitOnP isSeparator := by
  rw [appliesConst_iff, mem_splitOnP_iff]
  simp only [exists_standsBetween_takeWhile_iff]

/-- Blank characters of one byte are counted in full. -/
theorem uncounted_of_narrow {cs : List Char}
    (narrow : ∀ c ∈ cs, isBlank c = true → c.utf8Size = 1) : uncounted cs = 0 := by
  induction cs with
  | nil => rfl
  | cons c cs ih =>
      obtain ⟨head, tail⟩ := List.forall_mem_cons.mp narrow
      rw [uncounted, ih tail, Nat.add_zero]
      split
      · rename_i blank
        rw [head blank]
      · rfl

theorem isConst_shapeOf_iff_of_narrow {cs : List Char}
    (narrow : ∀ c ∈ cs, isBlank c = true → c.utf8Size = 1) :
    (shapeOf cs).isConst = true ↔ AppliesConst cs := by
  rw [isConst_shapeOf_iff]
  refine or_iff_left ?_
  rintro ⟨before, between, back, misplaced⟩
  have none : uncounted (before ++ between) = 0 := uncounted_of_narrow fun c member =>
    narrow c (misplaced.stands.whole ▸ List.mem_append_left _ (List.mem_append_left _ member))
  have := misplaced.overtakes
  omega

end CType

/-! ## The statement -/

/-- When a type is taken for constant: when a word `const` applies to what is pointed at, and when
one is taken for such a word. So the law that only the former counts fails for misplaced words that
stand alone, and nowhere else; blank characters of one byte misplace nothing. -/
structure ReadsConst (type : String) : Prop where
  isConst : (shapeOf type.toList).isConst = true ↔ AppliesConst type.toList ∨
    ∃ before between back, MisplacesConst type.toList before between back
  lawful : ((shapeOf type.toList).isConst = true ↔ AppliesConst type.toList) ↔
    (AppliesConst type.toList ∨
      ¬∃ before between back, MisplacesConst type.toList before between back)
  narrow : (∀ c ∈ type.toList, isBlank c = true → c.utf8Size = 1) →
    ((shapeOf type.toList).isConst = true ↔ AppliesConst type.toList)

theorem readsConst (type : String) : ReadsConst type where
  isConst := isConst_shapeOf_iff type.toList
  lawful := by
    rw [isConst_shapeOf_iff, or_iff_left_iff_imp, imp_iff_or_not]
  narrow := isConst_shapeOf_iff_of_narrow

/-- The pointer is constant and the integer is not, until the blank between the words is wide. -/
theorem isConst_wideBlank_misplaced :
    (shapeOf "int\u3000*const".toList).isConst = true ∧ ¬AppliesConst "int\u3000*const".toList ∧
      (mapType "int\u3000*const").abiName = "*const i32" ∧
      (mapType "int *const").abiName = "*mut i32" := by
  rw [appliesConst_iff_mem]
  decide

end ForeignBindings
