import ForeignBindings.Proofs.IntegerLiteral

/-!
# What is read as an integer literal

The grammar of integer literals, and how much more than it is read. Signs are taken off one by one,
then the suffix, and the rest is left to the reader of digits, which takes a plus sign in front of its
digits. So besides literals, `0x+5` and `+5` are read, and nothing else (`readsOnlyLiterals`).
-/

namespace ForeignBindings.Literal
open ForeignBindings.Identifier ForeignBindings.Text

/-! ## The grammar -/

/-- The digits of an integer literal, with the mark of their base. -/
inductive IsNumeral : List Char → Prop
  | hexadecimal {mark : Char} {digits : List Char} : mark = 'x' ∨ mark = 'X' → digits ≠ [] →
      (∀ c ∈ digits, c ∈ "0123456789abcdefABCDEF".toList) → IsNumeral ('0' :: mark :: digits)
  | octal {digits : List Char} : (∀ c ∈ digits, c ∈ "01234567".toList) → IsNumeral ('0' :: digits)
  | decimal {first : Char} {digits : List Char} : first ∈ "123456789".toList →
      (∀ c ∈ digits, c ∈ "0123456789".toList) → IsNumeral (first :: digits)

/-- So many minus signs, each of which blank characters may follow. -/
inductive Signs : Nat → List Char → Prop
  | none : Signs 0 []
  | sign {signs : Nat} {blanks front : List Char} : (∀ c ∈ blanks, isBlank c = true) →
      Signs signs front → Signs (signs + 1) ('-' :: (blanks ++ front))

/-- Minus signs, a number of the given form and letters of a suffix. -/
inductive Framed (form : List Char → Prop) (signs : Nat) : List Char → Prop
  | intro {front number suffix : List Char} : Signs signs front → form number →
      (∀ c ∈ suffix, c ∈ ['u', 'U', 'l', 'L']) → Framed form signs (front ++ number ++ suffix)

/-- An integer literal behind minus signs, with blank characters around it. -/
def IsLiteral (text : String) : Prop := ∃ signs, Framed IsNumeral signs (trim text.toList)

/-- The digits of `n` behind a plus sign, where the reader of digits begins. -/
inductive SpellsPlus (n : Nat) : List Char → Prop
  | decimal (zeros : Nat) : SpellsPlus n ('+' :: (List.replicate zeros '0' ++ Nat.toDigits 10 n))
  | hexadecimal {mark : Char} {digits : List Char} (zeros : Nat) : mark = 'x' ∨ mark = 'X' →
      digits.map Char.toLower = Nat.toDigits 16 n →
      SpellsPlus n ('0' :: mark :: '+' :: (List.replicate zeros '0' ++ digits))

/-- What is read as the number `n`: a spelling of it, or one with a plus sign. -/
def Reads (n : Nat) (number : List Char) : Prop := Spells n number ∨ SpellsPlus n number

/-! ## The digits of the grammar -/

theorem mem_digits_iff {base : Nat} {digits : List Char} (few : base ≤ 16)
    (below : digits.all (digitValue · < base) = true)
    (complete : ∀ n < 128, digitValue (Char.ofNat n) < 16 →
      digitValue (Char.ofNat n) < base → Char.ofNat n ∈ digits) {c : Char} :
    c ∈ digits ↔ digitValue c < base := by
  refine ⟨fun member => of_decide_eq_true (List.all_eq_true.mp below c member), fun digit => ?_⟩
  exact forall_digit (P := fun c => digitValue c < base → c ∈ digits) complete
    (Nat.lt_of_lt_of_le digit few) digit

theorem mem_hexadecimal_iff {c : Char} :
    c ∈ "0123456789abcdefABCDEF".toList ↔ digitValue c < 16 :=
  mem_digits_iff (by decide) (by decide) (by decide)

theorem mem_octal_iff {c : Char} : c ∈ "01234567".toList ↔ digitValue c < 8 :=
  mem_digits_iff (by decide) (by decide) (by decide)

theorem mem_decimal_iff {c : Char} : c ∈ "0123456789".toList ↔ digitValue c < 10 :=
  mem_digits_iff (by decide) (by decide) (by decide)

theorem mem_nonzero_iff {c : Char} :
    c ∈ "123456789".toList ↔ digitValue c < 10 ∧ c ≠ '0' := by
  have digits : "0123456789".toList = '0' :: "123456789".toList := rfl
  have noZero : '0' ∉ "123456789".toList := by decide
  rw [← mem_decimal_iff, digits, List.mem_cons]
  constructor
  · intro member
    exact ⟨.inr member, fun zero => noZero (zero ▸ member)⟩
  · rintro ⟨zero | member, nonzero⟩
    · exact absurd zero nonzero
    · exact member

theorem digitValue_lt_of_toDigits {base : Nat} (many : 1 < base) (few : base ≤ 10) (n zeros : Nat) :
    ∀ c ∈ List.replicate zeros '0' ++ Nat.toDigits base n, digitValue c < base :=
  digitValue_lt_of_map_toLower many (map_toLower_toDigits many few n)
    (Nat.le_trans few (by decide)) zeros

theorem exists_spells {number : List Char} (numeral : IsNumeral number) :
    ∃ n, Spells n number := by
  cases numeral with
  | @hexadecimal mark cs isMark nonempty digits =>
      have small : ∀ c ∈ cs, digitValue c < 16 := fun c member =>
        mem_hexadecimal_iff.mp (digits c member)
      obtain ⟨n, read⟩ := exists_digitsOnto small 0
      obtain ⟨zeros, written, rfl, lower⟩ :=
        (digitsOnto_eq_some_iff (by decide) (by decide) nonempty).mp read
      exact ⟨n, .hexadecimal zeros isMark lower⟩
  | @octal cs digits =>
      by_cases alone : cs = []
      · subst alone
        exact ⟨0, .decimal⟩
      · obtain ⟨n, zeros, rfl⟩ := exists_toDigits (by decide) (by decide) alone fun c member =>
          mem_octal_iff.mp (digits c member)
        exact ⟨n, .octal zeros⟩
  | @decimal first cs nonzero digits =>
      obtain ⟨digit, nonzero⟩ := mem_nonzero_iff.mp nonzero
      have all : ∀ c ∈ first :: cs, digitValue c < 10 :=
        List.forall_mem_cons.mpr ⟨digit, fun c member => mem_decimal_iff.mp (digits c member)⟩
      obtain ⟨n, zeros, whole⟩ :=
        exists_toDigits (by decide) (by decide) (List.cons_ne_nil first cs) all
      cases zeros with
      | zero =>
          rw [whole]
          exact ⟨n, .decimal⟩
      | succ zeros => exact absurd (List.cons.inj whole).1 nonzero

theorem Spells.isNumeral {n : Nat} {number : List Char} (spells : Spells n number) :
    IsNumeral number := by
  cases spells with
  | decimal =>
      have digits := digitValue_lt_of_toDigits (by decide : 1 < 10) (by decide) n 0
      obtain ⟨first, rest, whole⟩ :=
        List.exists_cons_of_ne_nil (Nat.toDigits_ne_nil (n := n) (b := 10))
      rw [List.replicate_zero, List.nil_append, whole] at digits
      obtain ⟨digit, digits⟩ := List.forall_mem_cons.mp digits
      rcases Nat.eq_zero_or_pos n with rfl | positive
      · exact .octal (List.forall_mem_nil _)
      · have nonzero := head?_toDigits_ne_zero (by decide : 1 < 10) positive
        rw [whole, List.head?_cons, Ne, Option.some_inj] at nonzero
        rw [whole]
        exact .decimal (mem_nonzero_iff.mpr ⟨digit, nonzero⟩) fun c member =>
          mem_decimal_iff.mpr (digits c member)
  | octal zeros =>
      have digits := digitValue_lt_of_toDigits (by decide : 1 < 8) (by decide) n zeros
      exact .octal fun c member => mem_octal_iff.mpr (digits c member)
  | hexadecimal zeros isMark lower =>
      refine .hexadecimal isMark ?_ fun c member => mem_hexadecimal_iff.mpr ?_
      · exact List.append_ne_nil_of_right_ne_nil _ (ne_nil_of_map_toLower lower)
      · exact digitValue_lt_of_map_toLower (by decide) lower (by decide) zeros c member

theorem isNumeral_iff {number : List Char} : IsNumeral number ↔ ∃ n, Spells n number :=
  ⟨exists_spells, fun ⟨_, spells⟩ => spells.isNumeral⟩

/-! ## Reading numbers -/

section Words

variable {base : Nat} (many : 1 < base) (few : base ≤ 16)
include many few

theorem exists_of_readWord {cs : List Char} {word : UInt64} (read : readWord base cs = some word) :
    ∃ n zeros digits, (cs = List.replicate zeros '0' ++ digits ∨
      cs = '+' :: (List.replicate zeros '0' ++ digits)) ∧
      digits.map Char.toLower = Nat.toDigits base n ∧ pattern 0 n = some word := by
  obtain ⟨n, natural, fits, rfl⟩ := readWord_eq_some_iff.mp read
  obtain ⟨cs', nonempty, plus, digits⟩ :=
    (readNatural_eq_some_iff (Nat.le_trans few (by decide))).mp natural
  obtain ⟨zeros, written, rfl, lower⟩ := (digitsOnto_eq_some_iff many few nonempty).mp digits
  exact ⟨n, zeros, written, plus, lower, by rw [pattern_zero, if_pos fits]⟩

theorem readWord_plus {n : Nat} {digits : List Char}
    (lower : digits.map Char.toLower = Nat.toDigits base n) (zeros : Nat) :
    readWord base ('+' :: (List.replicate zeros '0' ++ digits)) = pattern 0 n := by
  have nonempty := ne_nil_of_map_toLower lower
  have whole : List.replicate zeros '0' ++ digits ≠ [] :=
    List.append_ne_nil_of_right_ne_nil _ nonempty
  have unsigned : '+' ∉ List.replicate zeros '0' ++ digits := fun plus => by
    have small := digitValue_lt_of_map_toLower many lower few zeros '+' plus
    have foreign : digitValue '+' = 36 := by decide
    omega
  have read : digitsOnto base 0 digits = some n := by
    rw [← digitsOnto_map_toLower, lower, digitsOnto_toDigits many few]
  have skipped : readNatural base ('+' :: (List.replicate zeros '0' ++ digits)) =
      readNatural base (List.replicate zeros '0' ++ digits) := by
    rw [readNatural_of_unsigned base whole unsigned]
    obtain ⟨c, cs, same⟩ := List.exists_cons_of_ne_nil whole
    rw [same]
    rfl
  rw [pattern_zero, ← readWord_zeros (Nat.zero_lt_of_lt many) few nonempty read zeros, readWord,
    readWord, skipped]

end Words

theorem magnitude_of_reads {n : Nat} {number : List Char} (reads : Reads n number) :
    Literal.magnitude number = pattern 0 n := by
  rcases reads with spells | plus
  · rw [magnitude_of_spells spells, pattern_zero]
  · cases plus with
    | decimal zeros =>
        rw [magnitude_cons (by decide)]
        exact readWord_plus (by decide) (by decide)
          (map_toLower_toDigits (by decide) (by decide) n) zeros
    | hexadecimal zeros isMark lower =>
        rw [magnitude_mark_cons isMark]
        exact readWord_plus (by decide) (by decide) lower zeros

theorem reads_of_readWord_mark {mark : Char} (isMark : mark = 'x' ∨ mark = 'X') {cs : List Char}
    {word : UInt64} (read : readWord 16 cs = some word) :
    ∃ n, Reads n ('0' :: mark :: cs) ∧ pattern 0 n = some word := by
  obtain ⟨n, zeros, digits, rfl | rfl, lower, fits⟩ :=
    exists_of_readWord (by decide) (by decide) read
  · exact ⟨n, .inl (.hexadecimal zeros isMark lower), fits⟩
  · exact ⟨n, .inr (.hexadecimal zeros isMark lower), fits⟩

/-- A plus sign is no digit, so that the octal digits that were looked at before have none. -/
theorem reads_of_readWord_octal {cs : List Char} (decimal : cs.all Char.isDigit = true)
    {word : UInt64} (read : readWord 8 cs = some word) :
    ∃ n, Reads n ('0' :: cs) ∧ pattern 0 n = some word := by
  obtain ⟨n, zeros, digits, rfl | rfl, lower, fits⟩ :=
    exists_of_readWord (by decide) (by decide) read
  · rw [eq_toDigits_of_map_toLower (by decide) (by decide) lower]
    exact ⟨n, .inl (.octal zeros), fits⟩
  · cases decimal

theorem reads_of_readWord_decimal {cs : List Char} (noZero : ∀ rest, cs ≠ '0' :: rest)
    {word : UInt64} (read : readWord 10 cs = some word) :
    ∃ n, Reads n cs ∧ pattern 0 n = some word := by
  obtain ⟨n, zeros, digits, rfl | rfl, lower, fits⟩ :=
    exists_of_readWord (by decide) (by decide) read
  · rw [eq_toDigits_of_map_toLower (by decide) (by decide) lower] at noZero ⊢
    cases zeros with
    | zero => exact ⟨n, .inl .decimal, fits⟩
    | succ zeros => exact absurd rfl (noZero _)
  · rw [eq_toDigits_of_map_toLower (by decide) (by decide) lower]
    exact ⟨n, .inr (.decimal zeros), fits⟩

theorem reads_of_magnitude {cs : List Char} {word : UInt64}
    (read : Literal.magnitude cs = some word) : ∃ n, Reads n cs ∧ pattern 0 n = some word := by
  unfold Literal.magnitude at read
  split at read
  · exact reads_of_readWord_mark (.inl rfl) read
  · exact reads_of_readWord_mark (.inr rfl) read
  · cases read
    exact ⟨0, .inl .decimal, rfl⟩
  · split at read
    · rename_i decimal
      exact reads_of_readWord_octal decimal read
    · cases read
  · rename_i noZero
    exact reads_of_readWord_decimal noZero read

/-! ## Signs and suffixes -/

theorem getLast?_of_map_toLower {base n : Nat} (many : 1 < base) (few : base ≤ 16)
    {digits : List Char} (lower : digits.map Char.toLower = Nat.toDigits base n)
    (front : List Char) {c : Char} (last : (front ++ digits).getLast? = some c) :
    isSuffixLetter c = false := by
  rw [List.getLast?_append_of_ne_nil _ (ne_nil_of_map_toLower lower)] at last
  have digit := digitValue_lt_of_map_toLower many lower few 0 c (List.mem_of_getLast? last)
  exact (plain_of_digitValue (Nat.lt_of_lt_of_le digit few)).2

theorem SpellsPlus.isClosed {n : Nat} {number : List Char} (plus : SpellsPlus n number) :
    IsClosed number := by
  cases plus with
  | decimal zeros =>
      refine ⟨List.cons_ne_nil _ _, ?_, fun c last => ?_⟩
      · rintro c ⟨rfl⟩
        decide
      · exact getLast?_of_map_toLower (by decide) (by decide)
          (map_toLower_toDigits (by decide) (by decide) n) ('+' :: List.replicate zeros '0') last
  | @hexadecimal mark digits zeros isMark lower =>
      refine ⟨List.cons_ne_nil _ _, ?_, fun c last => ?_⟩
      · rintro c ⟨rfl⟩
        decide
      · exact getLast?_of_map_toLower (by decide) (by decide) lower
          ('0' :: mark :: '+' :: List.replicate zeros '0') last

theorem Reads.isClosed {n : Nat} {number : List Char} (reads : Reads n number) :
    IsClosed number := by
  rcases reads with spells | plus
  · exact spells.isClosed
  · exact plus.isClosed

theorem signed_of_framed {signs n : Nat} {cs : List Char} (framed : Framed (Reads n) signs cs) :
    signed cs = pattern signs n := by
  cases framed with
  | @intro front number suffix isFront reads letters =>
      have areLetters : ∀ c ∈ suffix, isSuffixLetter c = true := fun c member =>
        isSuffixLetter_iff.mpr (letters c member)
      rw [List.append_assoc]
      induction isFront with
      | none =>
          rw [List.nil_append, signed_number reads.isClosed areLetters, magnitude_of_reads reads]
      | sign blank _ ih =>
          rw [List.cons_append, signed, if_pos rfl, List.append_assoc, signed_blank_append blank, ih,
            pattern_succ]

theorem framed_of_signed {cs : List Char} {word : UInt64} (read : signed cs = some word) :
    ∃ blanks rest signs n, cs = blanks ++ rest ∧ (∀ c ∈ blanks, isBlank c = true) ∧
      Framed (Reads n) signs rest ∧ pattern signs n = some word := by
  -- Blank characters behind a sign belong to the frame; those before the first one are put aside.
  induction cs generalizing word with
  | nil => cases read
  | cons c cs ih =>
      unfold signed at read
      split at read
      · rename_i sign
        subst sign
        obtain ⟨inner, readInner, rfl⟩ := Option.map_eq_some_iff.mp read
        obtain ⟨blanks, _, signs, n, rfl, blank, ⟨front, reads, letters⟩, fits⟩ := ih readInner
        have whole := Framed.intro (.sign blank front) reads letters
        refine ⟨[], _, signs + 1, n, rfl, List.forall_mem_nil _, by simpa using whole, ?_⟩
        rw [pattern_succ, fits, Option.map_some]
      · split at read
        · rename_i blank
          obtain ⟨blanks, rest, signs, n, rfl, more, framed, fits⟩ := ih read
          have all : ∀ d ∈ c :: blanks, isBlank d = true := List.forall_mem_cons.mpr ⟨blank, more⟩
          exact ⟨c :: blanks, rest, signs, n, rfl, all, framed, fits⟩
        · obtain ⟨n, reads, fits⟩ := reads_of_magnitude read
          obtain ⟨suffix, letters, whole⟩ := exists_dropped_append isSuffixLetter (c :: cs)
          refine ⟨[], _, 0, n, rfl, List.forall_mem_nil _, ?_, fits⟩
          rw [whole]
          exact .intro .none reads fun d member => isSuffixLetter_iff.mp (letters d member)

/-! ## Texts -/

theorem parse?_eq_signed (text : String) : parse? text = signed (trim text.toList) := by
  obtain ⟨front, back, blankFront, blankBack, whole⟩ := exists_blanks_trim text.toList
  have ends : trimEnd text.toList = trimEnd (front ++ trim text.toList) := by
    conv_lhs => rw [whole]
    exact trimEnd_append_blank _ blankBack
  rw [parse?, read, ends]
  rcases List.eq_nil_or_concat' (trim text.toList) with empty | ⟨kept, c, last⟩
  · have nothing : trimEnd front = [] := trimEnd_append_blank [] blankFront
    rw [empty, List.append_nil, nothing]
  · have final : (trim text.toList).getLast? = some c := by rw [last, List.getLast?_concat]
    have visible := visible_getLast?_trim final
    have same : trimEnd (front ++ trim text.toList) = front ++ trim text.toList := by
      refine dropWhileEnd_eq_self fun d final => ?_
      rw [last, ← List.append_assoc, List.getLast?_concat] at final
      exact Option.some.inj final ▸ visible
    rw [same, signed_blank_append blankFront]

theorem parse?_of_framed {text : String} {signs n : Nat}
    (framed : Framed (Reads n) signs (trim text.toList)) : parse? text = pattern signs n := by
  rw [parse?_eq_signed, signed_of_framed framed]

theorem parse?_eq_some_iff {text : String} {word : UInt64} : parse? text = some word ↔
    ∃ signs n, Framed (Reads n) signs (trim text.toList) ∧ pattern signs n = some word := by
  constructor
  · intro read
    rw [parse?_eq_signed] at read
    obtain ⟨blanks, rest, signs, n, whole, blank, framed, fits⟩ := framed_of_signed read
    cases blanks with
    | nil => exact ⟨signs, n, whole ▸ framed, fits⟩
    | cons c blanks =>
        have first : (trim text.toList).head? = some c := by
          rw [whole, List.cons_append, List.head?_cons]
        have visible := visible_head?_trim first
        rw [blank c List.mem_cons_self] at visible
        cases visible
  · rintro ⟨signs, n, framed, fits⟩
    rw [parse?_of_framed framed, fits]

/-! ## Plus signs -/

theorem Framed.imp {form form' : List Char → Prop} {signs : Nat} {cs : List Char}
    (framed : Framed form signs cs) (weaker : ∀ number, number ⊆ cs → form number → form' number) :
    Framed form' signs cs := by
  obtain ⟨front, number, letters⟩ := framed
  refine .intro front (weaker _ ?_ number) letters
  simp

theorem isLiteral_iff {text : String} :
    IsLiteral text ↔ ∃ signs n, Framed (Spells n) signs (trim text.toList) := by
  constructor
  · rintro ⟨signs, framed⟩
    generalize trim text.toList = cs at framed
    obtain ⟨front, number, letters⟩ := framed
    obtain ⟨n, spells⟩ := isNumeral_iff.mp number
    exact ⟨signs, n, .intro front spells letters⟩
  · rintro ⟨signs, n, framed⟩
    exact ⟨signs, framed.imp fun _ _ spells => spells.isNumeral⟩

theorem Signs.noPlus {signs : Nat} {front : List Char} (isFront : Signs signs front) :
    '+' ∉ front := by
  induction isFront with
  | none => exact List.not_mem_nil
  | sign blank _ ih =>
      simp only [List.mem_cons, List.mem_append, not_or]
      exact ⟨by decide, not_mem_of_blank blank (by decide), ih⟩

theorem noPlus_of_isLiteral {text : String} (literal : IsLiteral text) : '+' ∉ text.toList := by
  have visible : isBlank '+' = false := by decide
  rw [← mem_trim_iff visible]
  obtain ⟨signs, n, framed⟩ := isLiteral_iff.mp literal
  generalize trim text.toList = cs at framed
  obtain ⟨front, spells, letters⟩ := framed
  simp only [List.mem_append, not_or]
  refine ⟨⟨front.noPlus, fun plus => ?_⟩, fun plus => ?_⟩
  · exact absurd (spells.plain '+' plus).1 (by decide)
  · exact absurd (letters '+' plus) (by decide)

theorem SpellsPlus.plus_mem {n : Nat} {number : List Char} (plus : SpellsPlus n number) :
    '+' ∈ number := by
  cases plus <;> simp

/-! ## The statement -/

/-- What is read: minus signs, a number and a suffix, where the number is one of a literal or has a
plus sign before its digits. A literal is refused only when its number has more than 64 bits, and
what is read is a literal unless there is a plus sign. -/
structure ReadsOnlyLiterals (text : String) : Prop where
  accepted : ∀ word, parse? text = some word ↔
    ∃ signs n, Framed (Reads n) signs (trim text.toList) ∧ n < 2 ^ 64 ∧
      word = UInt64.ofInt ((-1) ^ signs * n)
  refused : ∀ signs n, Framed (Reads n) signs (trim text.toList) →
    (parse? text = none ↔ 2 ^ 64 ≤ n)
  literal : IsLiteral text ↔ ∃ signs n, Framed (Spells n) signs (trim text.toList)
  lawful : ∀ word, parse? text = some word → (IsLiteral text ↔ '+' ∉ text.toList)

theorem readsOnlyLiterals (text : String) : ReadsOnlyLiterals text where
  accepted word := by
    rw [parse?_eq_some_iff]
    refine exists₂_congr fun signs n => and_congr_right fun _ => ?_
    rw [pattern, Option.ite_none_right_eq_some, Option.some_inj, eq_comm (b := word)]
  refused signs n framed := by
    rw [parse?_of_framed framed, pattern, ite_eq_right_iff]
    simp
  literal := isLiteral_iff
  lawful word read := by
    refine ⟨noPlus_of_isLiteral, fun noPlus => ?_⟩
    obtain ⟨signs, n, framed, -⟩ := parse?_eq_some_iff.mp read
    refine isLiteral_iff.mpr ⟨signs, n, framed.imp fun number inText reads => ?_⟩
    rcases reads with spells | plus
    · exact spells
    · exact absurd (mem_of_mem_trim (inText plus.plus_mem)) noPlus

/-- The digits behind `0x` have a sign of their own. -/
theorem parse?_signedDigits_read : parse? "0x+5" = some 5 ∧ ¬IsLiteral "0x+5" := by
  refine ⟨by decide, fun literal => noPlus_of_isLiteral literal ?_⟩
  decide

end ForeignBindings.Literal
