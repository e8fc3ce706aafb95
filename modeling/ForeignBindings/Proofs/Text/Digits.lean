import ForeignBindings.Text.Digits
import Mathlib.Data.List.Induction

/-!
# Numbers in digits

A run of decimal digits is read as its value, whatever zeros it starts with, and so what a number is
printed as is read back (`readWord_toString`). The same holds in every base up to sixteen, for
letters of either case (`digitsOnto_toDigits`, `digitsOnto_map_toLower`), and nothing else is read as
the number (`digitsOnto_eq_some_iff`).
-/

namespace ForeignBindings.Text

theorem digitValue_of_isDigit {c : Char} (digit : c.isDigit = true) :
    digitValue c = c.toNat - '0'.toNat :=
  if_pos digit

theorem digitValue_lt_ten {c : Char} (digit : c.isDigit = true) : digitValue c < 10 := by
  rw [digitValue_of_isDigit digit]
  have last : c.toNat ≤ '9'.toNat := (Char.isDigit_iff_toNat.mp digit).2
  exact Nat.lt_of_le_of_lt (Nat.sub_le_sub_right last _) (by decide)

theorem digitsOnto_decimal {cs : List Char} (decimal : ∀ c ∈ cs, c.isDigit = true) (acc : Nat) :
    digitsOnto 10 acc cs = some (Nat.ofDigitChars 10 cs acc) := by
  induction cs generalizing acc with
  | nil => rfl
  | cons c cs ih =>
      obtain ⟨digit, decimal⟩ := List.forall_mem_cons.mp decimal
      rw [digitsOnto, if_pos (digitValue_lt_ten digit), ih decimal, Nat.ofDigitChars_cons,
        digitValue_of_isDigit digit, Nat.mul_comm]

theorem readNatural_of_unsigned (base : Nat) {cs : List Char} (nonempty : cs ≠ [])
    (unsigned : '+' ∉ cs) : readNatural base cs = digitsOnto base 0 cs := by
  unfold readNatural
  split <;> simp_all

theorem readNatural_decimal {cs : List Char} (nonempty : cs ≠ [])
    (decimal : ∀ c ∈ cs, c.isDigit = true) :
    readNatural 10 cs = some (Nat.ofDigitChars 10 cs 0) := by
  have unsigned : '+' ∉ cs := fun plus => absurd (decimal '+' plus) (by decide)
  rw [readNatural_of_unsigned 10 nonempty unsigned, digitsOnto_decimal decimal]

theorem readWord_decimal {cs : List Char} (nonempty : cs ≠ [])
    (decimal : ∀ c ∈ cs, c.isDigit = true) (fits : Nat.ofDigitChars 10 cs 0 < UInt64.size) :
    readWord 10 cs = some (Nat.ofDigitChars 10 cs 0).toUInt64 := by
  rw [readWord, readNatural_decimal nonempty decimal, Option.bind_eq_bind, Option.bind_some,
    if_pos fits]

theorem readWord_toString (n : UInt64) : readWord 10 (toString n).toList = some n := by
  have digits : (toString n).toList = Nat.toDigits 10 n.toNat := Nat.toList_repr
  have decimal : ∀ c ∈ Nat.toDigits 10 n.toNat, c.isDigit = true := fun _ =>
    Nat.isDigit_of_mem_toDigits (by decide) (by decide)
  have value : Nat.ofDigitChars 10 (Nat.toDigits 10 n.toNat) 0 = n.toNat :=
    Nat.ofDigitChars_ten_toDigits
  have fits : Nat.ofDigitChars 10 (Nat.toDigits 10 n.toNat) 0 < UInt64.size := by
    rw [value]
    exact n.toNat_lt_size
  rw [digits, readWord_decimal Nat.toDigits_ne_nil decimal fits, value]
  exact congrArg some UInt64.ofNat_toNat

/-! ## Bases up to sixteen -/

theorem digitsOnto_append (base acc : Nat) (front back : List Char) :
    digitsOnto base acc (front ++ back) =
      (digitsOnto base acc front).bind (digitsOnto base · back) := by
  induction front generalizing acc with
  | nil => rfl
  | cons c front ih =>
      rw [List.cons_append, digitsOnto, digitsOnto]
      split
      · exact ih _
      · rfl

theorem digitsOnto_zeros {base : Nat} (positive : 0 < base) (zeros : Nat) (cs : List Char) :
    digitsOnto base 0 (List.replicate zeros '0' ++ cs) = digitsOnto base 0 cs := by
  have zero : digitValue '0' = 0 := by decide
  induction zeros with
  | zero => rfl
  | succ zeros ih =>
      rw [List.replicate_succ, List.cons_append, digitsOnto, zero, if_pos positive, Nat.zero_mul]
      exact ih

theorem digitValue_digitChar {digit : Nat} (small : digit < 16) :
    digitValue digit.digitChar = digit := by
  have all : ∀ digit < 16, digitValue digit.digitChar = digit := by decide
  exact all digit small

/-- A number that is written in some base is read back. -/
theorem digitsOnto_toDigits {base : Nat} (many : 1 < base) (few : base ≤ 16) (n : Nat) :
    digitsOnto base 0 (Nat.toDigits base n) = some n := by
  have single (acc : Nat) {digit : Nat} (small : digit < base) :
      digitsOnto base acc (Nat.toDigits base digit) = some (acc * base + digit) := by
    have value := digitValue_digitChar (Nat.lt_of_lt_of_le small few)
    rw [Nat.toDigits_of_lt_base small, digitsOnto, value, if_pos small, digitsOnto]
  induction n using Nat.base_induction base many with
  | single digit small => rw [single 0 small, Nat.zero_mul, Nat.zero_add]
  | digit n digit small positive ih =>
      rw [← Nat.toDigits_append_toDigits many positive small, digitsOnto_append, ih,
        Option.bind_some, single n small, Nat.mul_comm]

theorem digitValue_toLower (c : Char) : digitValue c.toLower = digitValue c := by
  have all : ∀ n < 128, digitValue (Char.ofNat n).toLower = digitValue (Char.ofNat n) := by decide
  by_cases upper : c.val ≥ 'A'.val ∧ c.val ≤ 'Z'.val
  · have sevenBit : c.toNat < 128 :=
      Nat.lt_of_le_of_lt (UInt32.le_iff_toNat_le.mp upper.2) (by decide)
    have same := all c.toNat sevenBit
    rwa [Char.ofNat_toNat] at same
  · exact congrArg digitValue (dif_neg upper)

theorem digitsOnto_map_toLower (base acc : Nat) (cs : List Char) :
    digitsOnto base acc (cs.map Char.toLower) = digitsOnto base acc cs := by
  induction cs generalizing acc with
  | nil => rfl
  | cons c cs ih => rw [List.map_cons, digitsOnto, digitsOnto, digitValue_toLower, ih]

theorem digitValue_lt_of_digitsOnto {base acc n : Nat} {cs : List Char}
    (read : digitsOnto base acc cs = some n) : ∀ c ∈ cs, digitValue c < base := by
  induction cs generalizing acc with
  | nil => exact List.forall_mem_nil _
  | cons c cs ih =>
      rw [digitsOnto] at read
      split at read
      · rename_i small
        exact List.forall_mem_cons.mpr ⟨small, ih read⟩
      · cases read

theorem isAlphanum_of_digitValue {c : Char} (digit : digitValue c < 36) :
    c.isAlphanum = true := by
  have alphabetic (cased : c.isUpper = true ∨ c.isLower = true) : c.isAlphanum = true :=
    Bool.or_eq_true_iff.mpr (.inl (Bool.or_eq_true_iff.mpr cased))
  unfold digitValue at digit
  split at digit
  · rename_i decimal
    exact Bool.or_eq_true_iff.mpr (.inr decimal)
  · split at digit
    · rename_i lower
      exact alphabetic (.inr (Bool.and_eq_true_iff.mpr
        ⟨decide_eq_true lower.1, decide_eq_true lower.2⟩))
    · split at digit
      · rename_i upper
        exact alphabetic (.inl (decide_eq_true upper))
      · exact absurd digit (by decide)

/-- Digits that stand for a number are read as its 64-bit pattern, if it has one. -/
theorem readWord_of_digitsOnto {base n : Nat} {cs : List Char} (few : base ≤ 36)
    (nonempty : cs ≠ []) (read : digitsOnto base 0 cs = some n) :
    readWord base cs = if n < UInt64.size then some n.toUInt64 else none := by
  have plus : digitValue '+' = 36 := by decide
  have unsigned : '+' ∉ cs := fun member => by
    have small := digitValue_lt_of_digitsOnto read '+' member
    omega
  rw [readWord, readNatural_of_unsigned base nonempty unsigned, read, Option.bind_eq_bind,
    Option.bind_some]

/-! ## How a number may be written -/

theorem toNat_lt_of_digitValue {c : Char} (digit : digitValue c < 36) : c.toNat < 128 := by
  unfold digitValue at digit
  split at digit
  · rename_i decimal
    exact Nat.lt_of_le_of_lt (Char.isDigit_iff_toNat.mp decimal).2 (by decide)
  · split at digit
    · rename_i lower
      exact Nat.lt_of_le_of_lt (UInt32.le_iff_toNat_le.mp lower.2) (by decide)
    · split at digit
      · rename_i upper
        exact Nat.lt_of_le_of_lt (UInt32.le_iff_toNat_le.mp upper.2) (by decide)
      · exact absurd digit (by decide)

/-- What was checked for the seven-bit characters holds for every digit. -/
theorem forall_digit {P : Char → Prop}
    (checked : ∀ n < 128, digitValue (Char.ofNat n) < 16 → P (Char.ofNat n)) {c : Char}
    (digit : digitValue c < 16) : P c := by
  have sevenBit := checked c.toNat (toNat_lt_of_digitValue (Nat.lt_trans digit (by decide)))
  rw [Char.ofNat_toNat] at sevenBit
  exact sevenBit digit

theorem digitChar_digitValue {c : Char} (digit : digitValue c < 16) :
    (digitValue c).digitChar = c.toLower :=
  forall_digit (P := fun c => (digitValue c).digitChar = c.toLower) (by decide) digit

theorem eq_zero_of_digitValue {c : Char} (zero : digitValue c = 0) : c = '0' :=
  forall_digit (P := fun c => digitValue c = 0 → c = '0') (by decide) (by omega) zero

theorem exists_digitsOnto {base : Nat} {cs : List Char} (digits : ∀ c ∈ cs, digitValue c < base)
    (acc : Nat) : ∃ n, digitsOnto base acc cs = some n := by
  induction cs generalizing acc with
  | nil => exact ⟨acc, rfl⟩
  | cons c cs ih =>
      obtain ⟨digit, digits⟩ := List.forall_mem_cons.mp digits
      rw [digitsOnto, if_pos digit]
      exact ih digits _

theorem exists_of_digitsOnto_concat {base n : Nat} {front : List Char} {c : Char}
    (read : digitsOnto base 0 (front ++ [c]) = some n) :
    ∃ m, digitsOnto base 0 front = some m ∧ digitValue c < base ∧ n = base * m + digitValue c := by
  rw [digitsOnto_append] at read
  obtain ⟨m, first, last⟩ := Option.bind_eq_some_iff.mp read
  rw [digitsOnto] at last
  split at last
  · rename_i small
    rw [digitsOnto, Option.some_inj, Nat.mul_comm] at last
    exact ⟨m, first, small, last.symm⟩
  · cases last

/-- A run of digits is zeros alone, or the digits of its number behind zeros. -/
theorem zeros_or_toDigits {base n : Nat} (many : 1 < base) (few : base ≤ 16) {cs : List Char}
    (read : digitsOnto base 0 cs = some n) :
    (n = 0 ∧ ∃ zeros, cs = List.replicate zeros '0') ∨
      (0 < n ∧ ∃ zeros digits, cs = List.replicate zeros '0' ++ digits ∧
        digits.map Char.toLower = Nat.toDigits base n) := by
  induction cs using List.reverseRecOn generalizing n with
  | nil =>
      cases read
      exact .inl ⟨rfl, 0, rfl⟩
  | append_singleton front c ih =>
      obtain ⟨m, first, small, rfl⟩ := exists_of_digitsOnto_concat read
      have digit := digitChar_digitValue (Nat.lt_of_lt_of_le small few)
      rcases ih first with ⟨rfl, zeros, rfl⟩ | ⟨positive, zeros, digits, rfl, lower⟩
      · rw [Nat.mul_zero, Nat.zero_add]
        by_cases zero : digitValue c = 0
        · refine .inl ⟨zero, zeros + 1, ?_⟩
          rw [eq_zero_of_digitValue zero, List.replicate_succ']
        · refine .inr ⟨Nat.pos_of_ne_zero zero, zeros, [c], rfl, ?_⟩
          rw [Nat.toDigits_of_lt_base small, digit, List.map_singleton]
      · have longer := Nat.mul_pos (Nat.zero_lt_of_lt many) positive
        refine .inr ⟨by omega, zeros, digits ++ [c], by simp, ?_⟩
        rw [List.map_append, lower, ← Nat.toDigits_append_toDigits many positive small,
          Nat.toDigits_of_lt_base small, digit, List.map_singleton]

/-- A run of digits stands for a number when it is how the number is written, up to zeros in front
and the case of letters. -/
theorem digitsOnto_eq_some_iff {base n : Nat} (many : 1 < base) (few : base ≤ 16) {cs : List Char}
    (nonempty : cs ≠ []) : digitsOnto base 0 cs = some n ↔
      ∃ zeros digits, cs = List.replicate zeros '0' ++ digits ∧
        digits.map Char.toLower = Nat.toDigits base n := by
  constructor
  · intro read
    rcases zeros_or_toDigits many few read with ⟨rfl, zeros, rfl⟩ | ⟨-, found⟩
    · cases zeros with
      | zero => exact absurd rfl nonempty
      | succ zeros => exact ⟨zeros, ['0'], List.replicate_succ', by simp⟩
    · exact found
  · rintro ⟨zeros, digits, rfl, lower⟩
    rw [digitsOnto_zeros (by omega), ← digitsOnto_map_toLower, lower, digitsOnto_toDigits many few]

section Lower

variable {base n : Nat} (many : 1 < base) {digits : List Char}
  (lower : digits.map Char.toLower = Nat.toDigits base n)
include lower

theorem ne_nil_of_map_toLower : digits ≠ [] := by
  rintro rfl
  exact Nat.toDigits_ne_nil lower.symm

include many

theorem digitValue_lt_of_map_toLower (few : base ≤ 16) (zeros : Nat) :
    ∀ c ∈ List.replicate zeros '0' ++ digits, digitValue c < base := by
  have nonempty : List.replicate zeros '0' ++ digits ≠ [] :=
    List.append_ne_nil_of_right_ne_nil _ (ne_nil_of_map_toLower lower)
  exact digitValue_lt_of_digitsOnto
    ((digitsOnto_eq_some_iff many few nonempty).mpr ⟨zeros, digits, rfl, lower⟩)

end Lower

/-! ## Bases without letters -/

theorem map_toLower_of_decimal {cs : List Char} (decimal : ∀ c ∈ cs, digitValue c < 10) :
    cs.map Char.toLower = cs := by
  refine (List.map_congr_left fun c member => ?_).trans (List.map_id cs)
  exact forall_digit (P := fun c => digitValue c < 10 → c.toLower = c) (by decide)
    (Nat.lt_trans (decimal c member) (by decide)) (decimal c member)

theorem map_toLower_toDigits {base : Nat} (many : 1 < base) (few : base ≤ 10) (n : Nat) :
    (Nat.toDigits base n).map Char.toLower = Nat.toDigits base n :=
  map_toLower_of_decimal fun _ member =>
    digitValue_lt_ten (Nat.isDigit_of_mem_toDigits (Nat.zero_lt_of_lt many) few member)

theorem eq_toDigits_of_map_toLower {base n : Nat} (many : 1 < base) (few : base ≤ 10)
    {digits : List Char} (lower : digits.map Char.toLower = Nat.toDigits base n) :
    digits = Nat.toDigits base n := by
  have small := digitValue_lt_of_map_toLower many lower (Nat.le_trans few (by decide)) 0
  rw [← lower, map_toLower_of_decimal fun c member => ?_]
  exact Nat.lt_of_lt_of_le (small c member) few

theorem exists_toDigits {base : Nat} (many : 1 < base) (few : base ≤ 10) {cs : List Char}
    (nonempty : cs ≠ []) (digits : ∀ c ∈ cs, digitValue c < base) :
    ∃ n zeros, cs = List.replicate zeros '0' ++ Nat.toDigits base n := by
  obtain ⟨n, read⟩ := exists_digitsOnto digits 0
  obtain ⟨zeros, written, rfl, lower⟩ :=
    (digitsOnto_eq_some_iff many (Nat.le_trans few (by decide)) nonempty).mp read
  exact ⟨n, zeros, by rw [eq_toDigits_of_map_toLower many few lower]⟩

/-! ## Words -/

theorem readNatural_eq_some_iff {base n : Nat} (few : base ≤ 36) {cs : List Char} :
    readNatural base cs = some n ↔ ∃ digits, digits ≠ [] ∧
      (cs = digits ∨ cs = '+' :: digits) ∧ digitsOnto base 0 digits = some n := by
  constructor
  · intro read
    unfold readNatural at read
    split at read
    · cases read
    · cases read
    · rename_i digits nonempty
      exact ⟨digits, fun empty => nonempty (by rw [empty]), .inr rfl, read⟩
    · rename_i nonempty _ _
      exact ⟨cs, nonempty, .inl rfl, read⟩
  · rintro ⟨digits, nonempty, rfl | rfl, read⟩
    · have plus : digitValue '+' = 36 := by decide
      have unsigned : '+' ∉ cs := fun member => by
        have small := digitValue_lt_of_digitsOnto read '+' member
        omega
      rw [readNatural_of_unsigned base nonempty unsigned, read]
    · obtain ⟨c, digits, rfl⟩ := List.exists_cons_of_ne_nil nonempty
      exact read

theorem readWord_eq_some_iff {base : Nat} {cs : List Char} {word : UInt64} :
    readWord base cs = some word ↔
      ∃ n, readNatural base cs = some n ∧ n < UInt64.size ∧ word = n.toUInt64 := by
  rw [readWord, Option.bind_eq_bind, Option.bind_eq_some_iff]
  refine exists_congr fun n => and_congr_right fun _ => ?_
  rw [Option.ite_none_right_eq_some, Option.some_inj, eq_comm (a := word)]

end ForeignBindings.Text
