import ForeignBindings.Declaration.Decode
import ForeignBindings.Document.Toml.Scalar
import ForeignBindings.Proofs.IntegerLiteral
import Mathlib.Data.List.Nodup

/-!
# The values of enumerators

A value is given to an enumerator as a number, as the decimal text of the number or as a hexadecimal
literal of its 64-bit pattern. In the range of the signed and the unsigned 64-bit numbers all of them
give the same pattern, the number modulo `2 ^ 64` (`decodesInteger`).
-/

namespace ForeignBindings
open Document

/-! ## How a value is given -/

/-- The integer `n`, in either of the widths that a document holds. -/
inductive IsNumber (n : Int) : Value → Prop
  | natural {word : UInt64} : word.toNat = n → IsNumber n (.natural word)
  | integer {word : Int64} : word.toInt = n → IsNumber n (.integer word)

inductive GivesInteger (n : Int) : Value → Prop
  | number {value : Value} : IsNumber n value → GivesInteger n value
  | decimal : GivesInteger n (.string (toString n))
  | hexadecimal {mark : Char} {digits suffix : List Char} (zeros : Nat) : mark = 'x' ∨ mark = 'X' →
      digits.map Char.toLower = Nat.toDigits 16 (n % 2 ^ 64).toNat →
      (∀ c ∈ suffix, c ∈ ['u', 'U', 'l', 'L']) →
      GivesInteger n
        (.string (String.ofList ('0' :: mark :: (List.replicate zeros '0' ++ digits ++ suffix))))

/-- An enumerator in a document: a table with the two entries, wherever they stand and whatever else
stands there, or a list of name and value. -/
inductive Enumerator.IsWritten (name : String) (value : Value) : Value → Prop
  | table {entries : List (String × Value)} : (entries.map Prod.fst).Nodup →
      ("name", .string name) ∈ entries → ("value", value) ∈ entries →
      IsWritten name value (.table entries)
  | list : IsWritten name value (.list [.string name, value])

/-! ## Patterns of numbers -/

theorem toNat_ofInt (n : Int) : ((UInt64.ofInt n).toNat : Int) = n % 2 ^ 64 := by
  rw [UInt64.ofInt, UInt64.toNat_ofNat']
  omega

theorem ofInt_emod (n : Int) : UInt64.ofInt (n % 2 ^ 64) = UInt64.ofInt n := by
  rw [UInt64.ofInt, UInt64.ofInt, Int.emod_emod]

theorem ofInt_toInt (i : Int64) : UInt64.ofInt i.toInt = i.toUInt64 := by
  have value : i.toInt % 2 ^ 64 = i.toUInt64.toNat := by
    have low := i.toUInt64.toNat_lt
    rw [Int64.toInt, BitVec.toInt_eq_toNat_cond, Int64.toNat_toBitVec]
    split <;> omega
  rw [UInt64.ofInt, value, Int.toNat_natCast, UInt64.ofNat_toNat]

theorem decodePattern_number {n : Int} {value : Value} (number : IsNumber n value) :
    decodePattern value = .ok (UInt64.ofInt n) := by
  cases number with
  | @natural word same =>
      rw [← same, Literal.ofInt_natCast, Nat.toUInt64, UInt64.ofNat_toNat]
      rfl
  | @integer word same =>
      rw [← same, ofInt_toInt]
      rfl

/-! ## Patterns of texts -/

theorem toList_toString_natCast (n : Nat) : (toString (n : Int)).toList = Nat.toDigits 10 n :=
  Nat.toList_repr

theorem toList_toString_negSucc (n : Nat) :
    (toString (Int.negSucc n)).toList = '-' :: Nat.toDigits 10 (n + 1) := by
  have text : toString (Int.negSucc n) = "-" ++ (n + 1).repr := rfl
  rw [text, String.toList_append, Nat.toList_repr]
  rfl

namespace Literal

theorem parse?_of_spells {n signs : Nat} {digits suffix : List Char} (spells : Spells n digits)
    (letters : ∀ c ∈ suffix, c ∈ ['u', 'U', 'l', 'L']) (fits : n < 2 ^ 64) {text : String}
    (written : text.toList = List.replicate signs '-' ++ digits ++ suffix) :
    parse? text = some (UInt64.ofInt ((-1) ^ signs * n)) := by
  let l : Spelling := ⟨[], List.forall_mem_nil _, signs, n, digits, spells, suffix, letters, [],
    List.forall_mem_nil _⟩
  have whole : l.text.toList = text.toList := by
    rw [Spelling.text, String.toList_ofList, List.append_nil, List.nil_append, written]
  rw [parse?, ← whole, l.read_text, pattern, if_pos fits]

theorem parse?_toString {n : Int} (low : -2 ^ 63 ≤ n) (high : n < 2 ^ 64) :
    parse? (toString n) = some (UInt64.ofInt n) := by
  have none : ∀ c ∈ [], c ∈ ['u', 'U', 'l', 'L'] := List.forall_mem_nil _
  rcases n with n | n
  · have fits : n < 2 ^ 64 := by
      have high : (n : Int) < 2 ^ 64 := high
      omega
    have written : (toString (n : Int)).toList = List.replicate 0 '-' ++ Nat.toDigits 10 n ++ [] := by
      rw [toList_toString_natCast, List.append_nil]
      rfl
    have read := parse?_of_spells .decimal none fits written
    rwa [pow_zero, one_mul] at read
  · have fits : n + 1 < 2 ^ 64 := by omega
    have written : (toString (Int.negSucc n)).toList =
        List.replicate 1 '-' ++ Nat.toDigits 10 (n + 1) ++ [] := by
      rw [toList_toString_negSucc, List.append_nil]
      rfl
    have read := parse?_of_spells .decimal none fits written
    rwa [pow_one, neg_one_mul] at read

theorem parse?_hexadecimal {n : Int} {mark : Char} {digits suffix : List Char} (zeros : Nat)
    (isMark : mark = 'x' ∨ mark = 'X')
    (lower : digits.map Char.toLower = Nat.toDigits 16 (n % 2 ^ 64).toNat)
    (letters : ∀ c ∈ suffix, c ∈ ['u', 'U', 'l', 'L']) :
    parse? (String.ofList ('0' :: mark :: (List.replicate zeros '0' ++ digits ++ suffix))) =
      some (UInt64.ofInt n) := by
  have fits : (n % 2 ^ 64).toNat < 2 ^ 64 := by omega
  have whole : ((n % 2 ^ 64).toNat : Int) = n % 2 ^ 64 := by omega
  have read := @parse?_of_spells _ 0 _ _ (.hexadecimal zeros isMark lower) letters fits _
    String.toList_ofList
  rwa [whole, pow_zero, one_mul, ofInt_emod] at read

end Literal

theorem decodePattern_of_givesInteger {n : Int} (low : -2 ^ 63 ≤ n) (high : n < 2 ^ 64)
    {value : Value} (gives : GivesInteger n value) :
    decodePattern value = .ok (UInt64.ofInt n) := by
  cases gives with
  | number isNumber => exact decodePattern_number isNumber
  | decimal =>
      simp only [decodePattern, Literal.parse?_toString low high]
  | hexadecimal zeros isMark lower letters =>
      simp only [decodePattern, Literal.parse?_hexadecimal zeros isMark lower letters]

/-! ## Records -/

namespace Enumerator

section Entries

variable {name : String} {value : Value} {pattern : UInt64}
  (decoded : decodePattern value = .ok pattern)
include decoded

theorem Given.read_entry (given : Given) {key : String} {v : Value}
    (isName : key = "name" → v = .string name) (isValue : key = "value" → v = value) :
    given.read (key, v) = .ok ⟨if key = "name" then some name else given.name,
      if key = "value" then some pattern else given.value⟩ := by
  by_cases nameKey : key = "name"
  · subst nameKey
    rw [isName rfl]
    rfl
  · by_cases valueKey : key = "value"
    · subst valueKey
      rw [isValue rfl, Given.read, decoded]
      rfl
    · unfold Given.read
      split <;> simp_all

theorem foldlM_read {entries : List (String × Value)}
    (names : ∀ v, ("name", v) ∈ entries → v = .string name)
    (values : ∀ v, ("value", v) ∈ entries → v = value) (given : Given) :
    entries.foldlM Given.read given =
      .ok ⟨if "name" ∈ entries.map Prod.fst then some name else given.name,
        if "value" ∈ entries.map Prod.fst then some pattern else given.value⟩ := by
  -- A later entry replaces what an earlier one of its key gave, and it gives the same.
  induction entries generalizing given with
  | nil => rfl
  | cons entry entries ih =>
      obtain ⟨key, v⟩ := entry
      have isName : key = "name" → v = .string name := by
        rintro rfl
        exact names v List.mem_cons_self
      have isValue : key = "value" → v = value := by
        rintro rfl
        exact values v List.mem_cons_self
      have rest := ih (fun v member => names v (List.mem_cons_of_mem _ member))
        (fun v member => values v (List.mem_cons_of_mem _ member))
      rw [List.foldlM_cons, given.read_entry decoded isName isValue]
      refine (rest _).trans ?_
      simp only [List.map_cons, List.mem_cons]
      grind

end Entries

theorem IsWritten.exists_entries {name : String} {value record : Value}
    (written : IsWritten name value record) : ∃ entries, shape.entries record = .ok entries ∧
      shape.checkLength record = .ok () ∧ (entries.map Prod.fst).Nodup ∧
      ("name", .string name) ∈ entries ∧ ("value", value) ∈ entries := by
  cases written with
  | table distinct hasName hasValue => exact ⟨_, rfl, rfl, distinct, hasName, hasValue⟩
  | list =>
      have distinct : (shape.fields.zip [Value.string name, value]).map Prod.fst =
        ["name", "value"] := rfl
      refine ⟨_, rfl, rfl, ?_, .head _, .tail _ (.head _)⟩
      rw [distinct]
      decide

theorem decode_of_isWritten {name : String} {value record : Value} {pattern : UInt64}
    (written : IsWritten name value record) (decoded : decodePattern value = .ok pattern) :
    decode record = .ok ⟨name, pattern⟩ := by
  obtain ⟨entries, given, noMore, distinct, hasName, hasValue⟩ := written.exists_entries
  have only {key : String} {v v' : Value} (first : (key, v) ∈ entries)
      (second : (key, v') ∈ entries) : v = v' :=
    congrArg Prod.snd (List.inj_on_of_nodup_map distinct first second rfl)
  have read := foldlM_read decoded (fun _ member => only member hasName)
    (fun _ member => only member hasValue) {}
  rw [if_pos (List.mem_map_of_mem hasName), if_pos (List.mem_map_of_mem hasValue)] at read
  simp only [decode, given, bind, Except.bind, read, RecordShape.require, noMore]
  rfl

end Enumerator

/-! ## Numbers that a document holds -/

namespace Document.Toml

theorem joinDigits_of_digits {isDigit : Char → Bool} (plain : isDigit '_' = false) {cs : List Char}
    (nonempty : cs ≠ []) (digits : ∀ c ∈ cs, isDigit c = true) : joinDigits isDigit cs = some cs := by
  fun_induction joinDigits isDigit cs <;> simp_all

theorem wholeNumber?_toDigits (n : Nat) : wholeNumber? 10 (Nat.toDigits 10 n) = some n := by
  have read := Text.digitsOnto_toDigits (by decide : 1 < 10) (by decide) n
  have digits : ∀ c ∈ Nat.toDigits 10 n, decide (Text.digitValue c < 10) = true := fun c member =>
    decide_eq_true (Text.digitValue_lt_of_digitsOnto read c member)
  rw [wholeNumber?, joinDigits_of_digits (by decide) Nat.toDigits_ne_nil digits]
  exact read

theorem hasNoLeadingZero_toDigits (n : Nat) : hasNoLeadingZero (Nat.toDigits 10 n) = true := by
  by_cases positive : 0 < n
  · have first := Literal.head?_toDigits_ne_zero (by decide : 1 < 10) positive
    unfold hasNoLeadingZero
    split <;> simp_all
  · obtain rfl : n = 0 := by omega
    rfl

theorem splitSign_toDigits (n : Nat) :
    splitSign (Nat.toDigits 10 n) = (false, Nat.toDigits 10 n) := by
  have digit {c : Char} (member : c ∈ Nat.toDigits 10 n) : c.isDigit = true :=
    Nat.isDigit_of_mem_toDigits (by decide) (by decide) member
  unfold splitSign
  split
  · rename_i whole
    exact absurd (digit (whole ▸ List.mem_cons_self)) (by decide)
  · rename_i whole
    exact absurd (digit (whole ▸ List.mem_cons_self)) (by decide)
  · rfl

/-- Digits behind a sign, or without one. No mark of a base stands in front, as it would follow a
zero. -/
theorem integer?_of_splitSign {cs digits : List Char} {isNegative : Bool} {n : Nat}
    (noMark : hasNoLeadingZero cs = true) (split : splitSign cs = (isNegative, digits))
    (first : hasNoLeadingZero digits = true) (read : wholeNumber? 10 digits = some n) :
    integer? cs = valueOfInt? (if isNegative then -n else n) := by
  have allowed : guard (hasNoLeadingZero digits = true) = some () := if_pos first
  unfold integer?
  split
  · cases noMark
  · cases noMark
  · cases noMark
  · rw [split]
    dsimp only
    rw [allowed, read, Option.bind_eq_bind, Option.bind_some, Option.bind_eq_bind, Option.bind_some]

theorem integer?_toString (n : Int) : integer? (toString n).toList = valueOfInt? n := by
  rcases n with n | n
  · have plain := hasNoLeadingZero_toDigits n
    have text : (toString (Int.ofNat n)).toList = Nat.toDigits 10 n := toList_toString_natCast n
    rw [text, integer?_of_splitSign plain (splitSign_toDigits n) plain (wholeNumber?_toDigits n),
      if_neg Bool.false_ne_true]
    rfl
  · have plain := hasNoLeadingZero_toDigits (n + 1)
    have noMark : hasNoLeadingZero ('-' :: Nat.toDigits 10 (n + 1)) = true := rfl
    have minus : splitSign ('-' :: Nat.toDigits 10 (n + 1)) = (true, Nat.toDigits 10 (n + 1)) := rfl
    rw [toList_toString_negSucc,
      integer?_of_splitSign noMark minus plain (wholeNumber?_toDigits (n + 1)), if_pos rfl,
      Int.negSucc_eq, Nat.cast_succ]

theorem valueOfInt?_number {n : Int} (low : -2 ^ 63 ≤ n) (high : n < 2 ^ 64) :
    ∃ value, valueOfInt? n = some value ∧ IsNumber n value := by
  have small : Int.pow 2 63 = 2 ^ 63 := rfl
  have large : Int.pow 2 64 = 2 ^ 64 := rfl
  rw [valueOfInt?, small, large]
  by_cases signed : n < 2 ^ 63
  · exact ⟨_, if_pos ⟨low, signed⟩, .integer (Int64.toInt_ofInt_of_le low signed)⟩
  · have above : ¬(-2 ^ 63 ≤ n ∧ n < 2 ^ 63) := fun within => signed within.2
    have unsigned : 0 ≤ n ∧ n < 2 ^ 64 := by omega
    refine ⟨_, (if_neg above).trans (if_pos unsigned), .natural ?_⟩
    rw [Nat.toUInt64, UInt64.toNat_ofNat']
    omega

/-- A whole number in the range is a word that stands for it. -/
theorem valueOfWord?_toString {n : Int} (low : -2 ^ 63 ≤ n) (high : n < 2 ^ 64) :
    ∃ value, valueOfWord? (toString n).toList = some value ∧ IsNumber n value := by
  obtain ⟨value, held, number⟩ := valueOfInt?_number low high
  have isNumber : integer? (toString n).toList = some value :=
    (integer?_toString n).trans held
  have notTrue : (toString n).toList ≠ "true".toList := fun same => by
    rw [same] at isNumber
    cases isNumber
  have notFalse : (toString n).toList ≠ "false".toList := fun same => by
    rw [same] at isNumber
    cases isNumber
  refine ⟨value, ?_, number⟩
  rw [valueOfWord?, if_neg notTrue, if_neg notFalse, isNumber]

end Document.Toml

/-! ## The statement -/

/-- However `n` is given to an enumerator, the enumerator has the pattern of `n`, and a document holds
`n` itself as well. -/
structure DecodesInteger (n : Int) : Prop where
  decoded : ∀ value, GivesInteger n value → ∀ name record, Enumerator.IsWritten name value record →
    Enumerator.decode record = .ok ⟨name, UInt64.ofInt n⟩
  pattern : ((UInt64.ofInt n).toNat : Int) = n % 2 ^ 64
  held : ∃ value, Toml.valueOfWord? (toString n).toList = some value ∧ IsNumber n value

theorem decodesInteger {n : Int} (low : -2 ^ 63 ≤ n) (high : n < 2 ^ 64) : DecodesInteger n where
  decoded _ gives _ _ written :=
    Enumerator.decode_of_isWritten written (decodePattern_of_givesInteger low high gives)
  pattern := toNat_ofInt n
  held := Toml.valueOfWord?_toString low high

/-- The least signed number, as its text in a table and as its pattern in a list. -/
theorem decodesInteger_least :
    Enumerator.decode (.table [("value", .string "-9223372036854775808"), ("name", .string "MIN")]) =
      .ok ⟨"MIN", 0x8000000000000000⟩ ∧
    Enumerator.decode (.list [.string "MIN", .string "0X8000000000000000ull"]) =
      .ok ⟨"MIN", 0x8000000000000000⟩ := by
  have decodes : DecodesInteger (-2 ^ 63) := decodesInteger (by decide) (by decide)
  have suffix : ∀ c ∈ ['u', 'l', 'l'], c ∈ ['u', 'U', 'l', 'L'] := by simp
  have lower : "8000000000000000".toList.map Char.toLower =
    Nat.toDigits 16 ((-2 ^ 63 : Int) % 2 ^ 64).toNat := by decide
  have distinct : ["value", "name"].Nodup := by decide
  have table : Enumerator.IsWritten "MIN" (.string (toString (-2 ^ 63 : Int)))
    (.table [("value", .string (toString (-2 ^ 63 : Int))), ("name", .string "MIN")]) :=
    .table distinct (.tail _ (.head _)) (.head _)
  exact ⟨decodes.decoded _ .decimal _ _ table,
    decodes.decoded _ (.hexadecimal 0 (.inr rfl) lower suffix) _ _ .list⟩

end ForeignBindings
