import ForeignBindings.Literal
import ForeignBindings.Proofs.Identifier
import ForeignBindings.Proofs.Text.Digits
import Mathlib.Algebra.Group.Nat.Defs
import Mathlib.Algebra.Ring.Int.Defs

/-!
# Integer literals

A number may be written in decimal, in octal after a zero or in hexadecimal after `0x`, with signs
before it, letters of a suffix behind it and blank characters around it. However it is written, it is
read as the 64-bit pattern of its value, and as nothing when it has more than 64 bits
(`readsLiterals`).
-/

namespace ForeignBindings.Literal
open ForeignBindings.Identifier ForeignBindings.Text

/-! ## How a number is written -/

/-- The digits of `n` as a literal without sign and suffix. Decimal digits start with no zero, unless
they are the number zero. -/
inductive Spells (n : Nat) : List Char → Prop
  | decimal : Spells n (Nat.toDigits 10 n)
  | octal (zeros : Nat) : Spells n ('0' :: (List.replicate zeros '0' ++ Nat.toDigits 8 n))
  | hexadecimal {mark : Char} {digits : List Char} (zeros : Nat) : mark = 'x' ∨ mark = 'X' →
      digits.map Char.toLower = Nat.toDigits 16 n →
      Spells n ('0' :: mark :: (List.replicate zeros '0' ++ digits))

/-- A literal: any number of minus signs, a number and a suffix, with blank characters around
them. -/
structure Spelling where
  leading : List Char
  leading_blank : ∀ c ∈ leading, isBlank c = true
  signs : Nat
  magnitude : Nat
  digits : List Char
  spells : Spells magnitude digits
  suffix : List Char
  suffix_letters : ∀ c ∈ suffix, c ∈ ['u', 'U', 'l', 'L']
  trailing : List Char
  trailing_blank : ∀ c ∈ trailing, isBlank c = true

namespace Spelling

def text (l : Spelling) : String :=
  String.ofList (l.leading ++ List.replicate l.signs '-' ++ l.digits ++ l.suffix ++
    l.trailing)

/-- The value, which every sign negates. -/
def value (l : Spelling) : Int := (-1) ^ l.signs * l.magnitude

end Spelling

/-! ## Reading the digits -/

theorem magnitude_cons {c : Char} (nonzero : c ≠ '0') (cs : List Char) :
    Literal.magnitude (c :: cs) = readWord 10 (c :: cs) := by
  unfold Literal.magnitude
  split <;> simp_all

theorem magnitude_zero_digits {cs : List Char} (nonempty : cs ≠ [])
    (digit : ∀ c ∈ cs, c.isDigit = true) : Literal.magnitude ('0' :: cs) = readWord 8 cs := by
  have noMark {c : Char} (member : c ∈ cs) : c ≠ 'x' ∧ c ≠ 'X' := by
    constructor <;> rintro rfl <;> exact absurd (digit _ member) (by decide)
  have all : cs.all Char.isDigit = true := List.all_eq_true.mpr digit
  unfold Literal.magnitude
  split <;> simp_all

theorem magnitude_mark_cons {mark : Char} (isMark : mark = 'x' ∨ mark = 'X') (cs : List Char) :
    Literal.magnitude ('0' :: mark :: cs) = readWord 16 cs := by
  rcases isMark with rfl | rfl <;> rfl

/-- A number other than zero is written without a zero in front. -/
theorem head?_toDigits_ne_zero {base n : Nat} (many : 1 < base) (positive : 0 < n) :
    (Nat.toDigits base n).head? ≠ some '0' := by
  have single {digit : Nat} (small : digit < base) (positive : 0 < digit) :
      (Nat.toDigits base digit).head? ≠ some '0' := by
    rw [Nat.toDigits_of_lt_base small, List.head?_cons, Ne, Option.some_inj, Nat.digitChar_eq_zero]
    exact Nat.ne_of_gt positive
  induction n using Nat.base_induction base many with
  | single digit small => exact single small positive
  | digit n digit small more ih =>
      rw [← Nat.toDigits_append_toDigits many more small,
        List.head?_append_of_ne_nil _ Nat.toDigits_ne_nil]
      exact ih more

theorem readWord_zeros {base n : Nat} {digits : List Char} (positive : 0 < base)
    (few : base ≤ 16) (nonempty : digits ≠ []) (read : digitsOnto base 0 digits = some n)
    (zeros : Nat) : readWord base (List.replicate zeros '0' ++ digits) =
      if n < UInt64.size then some n.toUInt64 else none := by
  refine readWord_of_digitsOnto (by omega) ?_ ?_
  · exact List.append_ne_nil_of_right_ne_nil _ nonempty
  · rw [digitsOnto_zeros positive, read]

theorem magnitude_of_spells {n : Nat} {digits : List Char} (spells : Spells n digits) :
    Literal.magnitude digits = if n < UInt64.size then some n.toUInt64 else none := by
  cases spells with
  | decimal =>
      by_cases positive : 0 < n
      · obtain ⟨c, cs, whole⟩ := List.exists_cons_of_ne_nil (Nat.toDigits_ne_nil (n := n) (b := 10))
        have nonzero : c ≠ '0' := by
          have first := head?_toDigits_ne_zero (by decide : 1 < 10) positive
          rw [whole] at first
          simpa using first
        rw [whole, magnitude_cons nonzero, ← whole]
        exact readWord_of_digitsOnto (by decide) Nat.toDigits_ne_nil
          (digitsOnto_toDigits (by decide) (by decide) n)
      · obtain rfl : n = 0 := by omega
        rfl
  | octal zeros =>
      have digit : ∀ c ∈ List.replicate zeros '0' ++ Nat.toDigits 8 n, c.isDigit = true := by
        refine List.forall_mem_append.mpr ⟨fun c zero => ?_, fun c => ?_⟩
        · rw [List.eq_of_mem_replicate zero]
          rfl
        · exact Nat.isDigit_of_mem_toDigits (by decide) (by decide)
      rw [magnitude_zero_digits (List.append_ne_nil_of_right_ne_nil _ Nat.toDigits_ne_nil) digit]
      exact readWord_zeros (by decide) (by decide) Nat.toDigits_ne_nil
        (digitsOnto_toDigits (by decide) (by decide) n) zeros
  | hexadecimal zeros isMark lower =>
      rw [magnitude_mark_cons isMark]
      refine readWord_zeros (by decide) (by decide) ?_ ?_ zeros
      · rintro rfl
        exact Nat.toDigits_ne_nil lower.symm
      · rw [← digitsOnto_map_toLower, lower, digitsOnto_toDigits (by decide) (by decide)]

/-! ## What stands around the digits -/

theorem Spells.ne_nil {n : Nat} {digits : List Char} (spells : Spells n digits) : digits ≠ [] := by
  cases spells with
  | decimal => exact Nat.toDigits_ne_nil
  | octal => exact List.cons_ne_nil _ _
  | hexadecimal => exact List.cons_ne_nil _ _

/-- A digit is no blank, no sign and no letter of a suffix. -/
theorem plain_of_digitValue {c : Char} (digit : digitValue c < 16) :
    isWordChar c = true ∧ isSuffixLetter c = false := by
  refine ⟨isWordChar_of_isAlphanum (isAlphanum_of_digitValue (by omega)), ?_⟩
  rw [← Bool.not_eq_true]
  intro letter
  simp only [isSuffixLetter, Bool.or_eq_true, beq_iff_eq] at letter
  rcases letter with ((rfl | rfl) | rfl) | rfl <;> exact absurd digit (by decide)

theorem isSuffixLetter_iff {c : Char} :
    isSuffixLetter c = true ↔ c ∈ ['u', 'U', 'l', 'L'] := by
  simp [isSuffixLetter, or_assoc]

theorem isBlank_of_isSuffixLetter {c : Char} (letter : isSuffixLetter c = true) :
    isBlank c = false := by
  simp only [isSuffixLetter, Bool.or_eq_true, beq_iff_eq] at letter
  rcases letter with ((rfl | rfl) | rfl) | rfl <;> decide

theorem Spells.plain {n : Nat} {digits : List Char} (spells : Spells n digits) :
    ∀ c ∈ digits, isWordChar c = true ∧ isSuffixLetter c = false := by
  have written {base : Nat} (many : 1 < base) (few : base ≤ 16) {digits : List Char}
      (lower : digits.map Char.toLower = Nat.toDigits base n ∨ digits = Nat.toDigits base n) :
      ∀ c ∈ digits, isWordChar c = true ∧ isSuffixLetter c = false := by
    have read : digitsOnto base 0 digits = some n := by
      rcases lower with lower | rfl
      · rw [← digitsOnto_map_toLower, lower, digitsOnto_toDigits many few]
      · exact digitsOnto_toDigits many few n
    exact fun c member => plain_of_digitValue
      (Nat.lt_of_lt_of_le (digitValue_lt_of_digitsOnto read c member) few)
  have zero : isWordChar '0' = true ∧ isSuffixLetter '0' = false := by decide
  have replicated (zeros : Nat) : ∀ c ∈ List.replicate zeros '0',
      isWordChar c = true ∧ isSuffixLetter c = false := fun c member => by
    rwa [List.eq_of_mem_replicate member]
  cases spells with
  | decimal => exact written (by decide) (by decide) (.inr rfl)
  | octal zeros =>
      exact List.forall_mem_cons.mpr ⟨zero, List.forall_mem_append.mpr
        ⟨replicated zeros, written (by decide) (by decide) (.inr rfl)⟩⟩
  | @hexadecimal mark digits zeros isMark lower =>
      have mark : isWordChar mark = true ∧ isSuffixLetter mark = false := by
        rcases isMark with rfl | rfl <;> decide
      exact List.forall_mem_cons.mpr ⟨zero, List.forall_mem_cons.mpr ⟨mark,
        List.forall_mem_append.mpr ⟨replicated zeros, written (by decide) (by decide) (.inl lower)⟩⟩⟩

/-- No sign and no blank character begins a number, and no letter of a suffix ends it. -/
structure IsClosed (number : List Char) : Prop where
  nonempty : number ≠ []
  first : ∀ c, number.head? = some c → c ≠ '-' ∧ isBlank c = false
  last : ∀ c, number.getLast? = some c → isSuffixLetter c = false

theorem Spells.isClosed {n : Nat} {digits : List Char} (spells : Spells n digits) :
    IsClosed digits where
  nonempty := spells.ne_nil
  first c head := by
    have word := (spells.plain c (List.mem_of_head? head)).1
    refine ⟨?_, isBlank_of_isWordChar word⟩
    rintro rfl
    exact absurd word (by decide)
  last c last := (spells.plain c (List.mem_of_getLast? last)).2

theorem signed_blank_append {blanks : List Char} (blank : ∀ c ∈ blanks, isBlank c = true)
    (cs : List Char) : signed (blanks ++ cs) = signed cs := by
  induction blanks with
  | nil => rfl
  | cons c blanks ih =>
      obtain ⟨head, tail⟩ := List.forall_mem_cons.mp blank
      have unsigned : c ≠ '-' := by
        rintro rfl
        exact absurd head (by decide)
      rw [List.cons_append, signed, if_neg unsigned, if_pos head, ih tail]

theorem signed_number {number suffix : List Char} (closed : IsClosed number)
    (letters : ∀ c ∈ suffix, isSuffixLetter c = true) :
    signed (number ++ suffix) = Literal.magnitude number := by
  have kept : dropWhileEnd isSuffixLetter (number ++ suffix) = number := by
    rw [dropWhileEnd_append_of_pos letters, dropWhileEnd_eq_self closed.last]
  obtain ⟨c, cs, rfl⟩ := List.exists_cons_of_ne_nil closed.nonempty
  obtain ⟨unsigned, visible⟩ := closed.first c rfl
  rw [List.cons_append, signed, if_neg unsigned, if_neg (by simp [visible]), ← List.cons_append,
    kept]

/-- The pattern of a value of at most 64 bits, negated by so many signs. -/
def pattern (signs magnitude : Nat) : Option UInt64 :=
  if magnitude < 2 ^ 64 then some (UInt64.ofInt ((-1) ^ signs * magnitude)) else none

theorem ofInt_natCast (n : Nat) : UInt64.ofInt n = n.toUInt64 := by
  have low : ((n : Int) % 2 ^ 64).toNat = n % 2 ^ 64 := by omega
  rw [UInt64.ofInt, low, UInt64.ofNat_mod_size]

theorem pattern_zero (n : Nat) :
    pattern 0 n = if n < UInt64.size then some n.toUInt64 else none := by
  rw [pattern, pow_zero, one_mul, ofInt_natCast]
  rfl

theorem pattern_succ (signs n : Nat) : pattern (signs + 1) n = (pattern signs n).map (0 - ·) := by
  unfold pattern
  split
  · rw [Option.map_some, UInt64.zero_sub, ← UInt64.ofInt_neg, pow_succ, mul_neg_one, neg_mul]
  · rfl

theorem signed_signs {cs : List Char} {magnitude : Nat} (read : signed cs = pattern 0 magnitude)
    (signs : Nat) : signed (List.replicate signs '-' ++ cs) = pattern signs magnitude := by
  induction signs with
  | zero => exact read
  | succ signs ih =>
      rw [List.replicate_succ, List.cons_append, signed, if_pos rfl, ih, pattern_succ]

theorem signed_digits {n : Nat} {digits : List Char} (spells : Spells n digits)
    {letters : List Char} (areLetters : ∀ c ∈ letters, isSuffixLetter c = true) :
    signed (digits ++ letters) = pattern 0 n := by
  rw [signed_number spells.isClosed areLetters, magnitude_of_spells spells, pattern_zero]

namespace Spelling

theorem read_text (l : Spelling) : read l.text.toList = pattern l.signs l.magnitude := by
  have letters : ∀ c ∈ l.suffix, isSuffixLetter c = true := fun c member =>
    isSuffixLetter_iff.mpr (l.suffix_letters c member)
  have visible : ∀ c ∈ l.digits ++ l.suffix, isBlank c = false :=
    List.forall_mem_append.mpr ⟨fun c member => isBlank_of_isWordChar (l.spells.plain c member).1,
      fun c member => isBlank_of_isSuffixLetter (letters c member)⟩
  have nonempty : l.digits ++ l.suffix ≠ [] := List.append_ne_nil_of_left_ne_nil l.spells.ne_nil _
  have trimmed : trimEnd (l.leading ++ List.replicate l.signs '-' ++ (l.digits ++ l.suffix)) =
      l.leading ++ List.replicate l.signs '-' ++ (l.digits ++ l.suffix) := by
    refine dropWhileEnd_eq_self fun c last => ?_
    rw [List.getLast?_append_of_ne_nil _ nonempty] at last
    exact visible c (List.mem_of_getLast? last)
  calc read l.text.toList
      = signed (trimEnd (l.leading ++ List.replicate l.signs '-' ++ (l.digits ++ l.suffix) ++
          l.trailing)) := by rw [text, String.toList_ofList, read, List.append_assoc _ l.digits]
    _ = signed (List.replicate l.signs '-' ++ (l.digits ++ l.suffix)) := by
        rw [trimEnd_append_blank _ l.trailing_blank, trimmed, List.append_assoc,
          signed_blank_append l.leading_blank]
    _ = pattern l.signs l.magnitude := signed_signs (signed_digits l.spells letters) l.signs

end Spelling

/-! ## The statement -/

theorem readsLiterals (l : Spelling) : parse? l.text =
    if l.magnitude < 2 ^ 64 then some (UInt64.ofInt l.value) else none :=
  l.read_text

end ForeignBindings.Literal
