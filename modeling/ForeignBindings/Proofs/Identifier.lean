import ForeignBindings.Identifier.Case
import ForeignBindings.Proofs.Text.Lines
import Mathlib.Tactic.Common

/-!
# Characters of identifiers

Whatever a name holds, its identifier is made of letters, digits and underscores, with the mark of a
raw identifier as the only exception (`mem_ident`). In snake case there is no exception
(`isWord_snakeCase`).
-/

namespace ForeignBindings.Identifier
open ForeignBindings.Text

theorem mem_wordOf {cs : List Char} {c : Char} (member : c ∈ wordOf cs) : isWordChar c = true := by
  have replaced : ∀ c ∈ cs.map (fun c => if isWordChar c then c else '_'), isWordChar c = true := by
    intro c member
    obtain ⟨d, -, rfl⟩ := List.mem_map.mp member
    split
    · assumption
    · decide
  unfold wordOf at member
  split at member
  · cases member
  · rename_i d rest whole
    rw [whole] at replaced
    split at member
    · rcases List.mem_cons.mp member with rfl | member
      · decide
      · exact replaced c member
    · exact replaced c member

theorem mem_guardKeyword {word : String} {c : Char} (member : c ∈ (guardKeyword word).toList) :
    c ∈ word.toList ∨ isWordChar c = true ∨ c = '#' := by
  unfold guardKeyword at member
  split at member
  · rw [String.toList_append, List.mem_append] at member
    rcases member with member | member
    · exact .inl member
    · obtain rfl : c = '_' := by simpa using member
      exact .inr (.inl (by decide))
  · split at member
    · rw [String.toList_append, List.mem_append] at member
      rcases member with member | member
      · obtain rfl | rfl : c = 'r' ∨ c = '#' := by simpa using member
        · exact .inr (.inl (by decide))
        · exact .inr (.inr rfl)
      · exact .inl member
    · exact .inl member

/-- The characters that an identifier, marked as raw or not, may hold. -/
def IsIdentChar (c : Char) : Prop := isWordChar c = true ∨ c = '#'

/-- A text of letters, digits and underscores. -/
def IsWord (s : String) : Prop := ∀ c ∈ s.toList, isWordChar c = true

theorem isWord_ofList {cs : List Char} (word : cs.all isWordChar = true) :
    IsWord (String.ofList cs) := by
  rw [IsWord, String.toList_ofList]
  exact List.all_eq_true.mp word

theorem IsWord.append {s t : String} (front : IsWord s) (back : IsWord t) : IsWord (s ++ t) := by
  intro c member
  rw [String.toList_append, List.mem_append] at member
  exact member.elim (front c) (back c)

theorem IsWord.isIdentChar {s : String} (word : IsWord s) : ∀ c ∈ s.toList, IsIdentChar c :=
  fun c member => .inl (word c member)

theorem mem_ident {raw fallback : String} (plain : ∀ c ∈ fallback.toList, IsIdentChar c) {c : Char}
    (member : c ∈ (ident raw fallback).toList) : IsIdentChar c := by
  unfold ident at member
  split at member
  · exact plain c member
  · rcases mem_guardKeyword member with inWord | mark
    · rw [String.toList_ofList] at inWord
      exact .inl (mem_wordOf inWord)
    · exact mark

theorem isWord_toString (n : Nat) : IsWord (toString n) := by
  intro c member
  have digits : c ∈ Nat.toDigits 10 n := by simpa [toString, Nat.repr] using member
  have digit : c.isDigit = true := Nat.isDigit_of_mem_toDigits (by decide) (by decide) digits
  rw [isWordChar, Char.isAlphanum, digit, Bool.or_true, Bool.true_or]

theorem IsIdentChar.ne {c d : Char} (plain : IsIdentChar c)
    (foreign : (isWordChar d || d == '#') = false) : c ≠ d := by
  rintro rfl
  rw [Bool.or_eq_false_iff, beq_eq_false_iff_ne] at foreign
  rcases plain with word | mark
  · rw [foreign.1] at word
    cases word
  · exact foreign.2 mark

theorem unbroken_of_isIdentChar {s : String} (plain : ∀ c ∈ s.toList, IsIdentChar c) : Unbroken s :=
  fun c member => ⟨(plain c member).ne (by decide), (plain c member).ne (by decide)⟩

/-! ## Case styles -/

theorem toNat_lt_of_isWordChar {c : Char} (word : isWordChar c = true) : c.toNat < 128 := by
  have bounded {d : Char} (below : c.val ≤ d.val) (sevenBit : d.toNat < 128) : c.toNat < 128 :=
    Nat.lt_of_le_of_lt (UInt32.le_iff_toNat_le.mp below) sevenBit
  rcases Bool.or_eq_true_iff.mp word with alphanumeric | underscore
  · rcases Bool.or_eq_true_iff.mp alphanumeric with letter | digit
    · rcases Bool.or_eq_true_iff.mp letter with upper | lower
      · have range : 'A'.val ≤ c.val ∧ c.val ≤ 'Z'.val := of_decide_eq_true upper
        exact bounded range.2 (by decide)
      · have below : c.val ≤ 'z'.val := of_decide_eq_true (Bool.and_eq_true_iff.mp lower).2
        exact bounded below (by decide)
    · have below : c.val ≤ '9'.val := of_decide_eq_true (Bool.and_eq_true_iff.mp digit).2
      exact bounded below (by decide)
  · rw [beq_iff_eq.mp underscore]
    decide

/-- What was checked for the seven-bit characters holds for the characters of words. -/
theorem forall_isWordChar {P : Char → Prop}
    (checked : ∀ n < 128, isWordChar (Char.ofNat n) = true → P (Char.ofNat n)) {c : Char}
    (word : isWordChar c = true) : P c := by
  have sevenBit := checked c.toNat (toNat_lt_of_isWordChar word)
  rw [Char.ofNat_toNat] at sevenBit
  exact sevenBit word

theorem isBlank_of_isWordChar {c : Char} (word : isWordChar c = true) : isBlank c = false :=
  forall_isWordChar (P := fun c => isBlank c = false) (by decide) word

theorem trim_word {cs : List Char} (word : ∀ c ∈ cs, isWordChar c = true) : trim cs = cs :=
  trim_eq_self (fun c first => isBlank_of_isWordChar (word c (List.mem_of_head? first)))
    fun c last => isBlank_of_isWordChar (word c (List.mem_of_getLast? last))

theorem isWordChar_toLower {c : Char} (word : isWordChar c = true) : isWordChar c.toLower = true :=
  forall_isWordChar (P := fun c => isWordChar c.toLower = true) (by decide) word

theorem isWordChar_of_isAlphanum {c : Char} (alphanumeric : c.isAlphanum = true) :
    isWordChar c = true := by
  rw [isWordChar, alphanumeric, Bool.true_or]

theorem isAlphanum_toUpper {c : Char} (alphanumeric : c.isAlphanum = true) :
    c.toUpper.isAlphanum = true :=
  forall_isWordChar (P := fun c => c.isAlphanum = true → c.toUpper.isAlphanum = true) (by decide)
    (isWordChar_of_isAlphanum alphanumeric) alphanumeric

theorem toLower_ne_underscore {c : Char} (alphanumeric : c.isAlphanum = true) :
    c.toLower ≠ '_' :=
  forall_isWordChar (P := fun c => c.isAlphanum = true → c.toLower ≠ '_') (by decide)
    (isWordChar_of_isAlphanum alphanumeric) alphanumeric

/-- A text of letters and digits. -/
def IsAlphanumeric (s : String) : Prop := ∀ c ∈ s.toList, c.isAlphanum = true

theorem IsAlphanumeric.isWord {s : String} (alphanumeric : IsAlphanumeric s) : IsWord s :=
  fun c member => isWordChar_of_isAlphanum (alphanumeric c member)

theorem IsAlphanumeric.append {s t : String} (front : IsAlphanumeric s) (back : IsAlphanumeric t) :
    IsAlphanumeric (s ++ t) := by
  intro c member
  rw [String.toList_append, List.mem_append] at member
  exact member.elim (front c) (back c)

theorem isAlphanumeric_upperCamelCase (raw : String) : IsAlphanumeric (upperCamelCase raw) := by
  intro c member
  rw [upperCamelCase, String.toList_ofList, List.mem_flatMap] at member
  obtain ⟨piece, inPieces, member⟩ := member
  have plain : ∀ d ∈ piece, d.isAlphanum = true := by
    intro d inPiece
    simpa using eq_false_of_mem_splitOnP inPieces d inPiece
  cases piece with
  | nil => cases member
  | cons d rest =>
      rcases List.mem_cons.mp member with rfl | inRest
      · exact isAlphanum_toUpper (plain d List.mem_cons_self)
      · exact plain c (List.mem_cons_of_mem d inRest)

theorem mem_snakeAfter {prev : Option Char} {inWord : Bool} {cs : List Char} {c : Char}
    (member : c ∈ snakeAfter prev inWord cs) : isWordChar c = true := by
  induction cs generalizing prev inWord with
  | nil => cases member
  | cons d cs ih =>
      have separator : ∀ {b : Bool}, c ∈ (if b then ['_'] else []) → isWordChar c = true := by
        intro b inSeparator
        obtain ⟨-, rfl⟩ : b = true ∧ c = '_' := by simpa using inSeparator
        decide
      unfold snakeAfter at member
      split at member
      · rcases List.mem_append.mp member with inSeparator | rest
        · exact separator inSeparator
        · exact ih rest
      · rename_i alphanumeric
        rcases List.mem_append.mp member with inSeparator | rest
        · exact separator inSeparator
        · rcases List.mem_cons.mp rest with rfl | rest
          · exact isWordChar_toLower (isWordChar_of_isAlphanum (by simpa using alphanumeric))
          · exact ih rest

theorem isWord_snakeCase (raw : String) : IsWord (snakeCase raw) := by
  intro c member
  rw [snakeCase, String.toList_ofList, dropWhileEnd, List.mem_reverse] at member
  exact mem_snakeAfter (List.mem_reverse.mp ((List.dropWhile_sublist _).subset member))

end ForeignBindings.Identifier
