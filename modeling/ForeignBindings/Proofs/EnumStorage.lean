import ForeignBindings.Proofs.FirstOccurrence
import ForeignBindings.Section.Types

/-!
# What the word of an enum keeps

An enum is stored in 32 bits when each of its values is one of an unsigned or of a signed integer of
32 bits. The two are told apart value by value, while the word is one for the whole enum:
`storesValues` says that every constant is widened back to its value one way or the other, and that
one way does for all of them exactly when the enum does not mix values of 2³¹ and above with
negative ones.
-/

namespace ForeignBindings
open Identifier

/-! ## Integer types of 32 bits -/

/-- The integer types of 32 bits. -/
inductive WordType
  | unsigned | signed

namespace WordType

/-- The 64-bit pattern of a value, from its 32 bits. -/
def widen : WordType → UInt32 → UInt64
  | unsigned, bits => bits.toUInt64
  | signed, bits => bits.toInt32.toInt64.toUInt64

/-- The 64-bit patterns of the values of a type. -/
def Holds : WordType → UInt64 → Prop
  | unsigned, value => value ≤ 0xFFFFFFFF
  | signed, value => value ≤ 0x7FFFFFFF ∨ 0xFFFFFFFF80000000 ≤ value

theorem toNat_widen_signed (bits : UInt32) :
    (signed.widen bits).toNat =
      if bits.toNat < 0x80000000 then bits.toNat else bits.toNat + 0xFFFFFFFF00000000 := by
  have extended : (signed.widen bits).toNat = (bits.toBitVec.signExtend 64).toNat := rfl
  have bound := bits.toNat_lt
  rw [extended, BitVec.toNat_signExtend, BitVec.msb_eq_decide]
  simp only [BitVec.toNat_setWidth, UInt32.toNat_toBitVec, decide_eq_true_eq]
  split <;> split <;> omega

/-- Widening the low half of a pattern gives the pattern back when it is a value of the type. -/
theorem widen_toUInt32_eq_iff (type : WordType) (value : UInt64) :
    type.widen value.toUInt32 = value ↔ type.Holds value := by
  have bound := value.toNat_lt
  cases type with
  | unsigned =>
      simp only [widen, Holds, ← UInt64.toNat_inj, UInt64.le_iff_toNat_le, UInt32.toNat_toUInt64,
        UInt64.toNat_toUInt32, UInt64.reduceToNat]
      omega
  | signed =>
      rw [← UInt64.toNat_inj, toNat_widen_signed]
      simp only [Holds, UInt64.le_iff_toNat_le, UInt64.toNat_toUInt32, UInt64.reduceToNat]
      split <;> omega

end WordType

/-- A value that is beyond the signed type. -/
def IsHigh (value : UInt64) : Prop := 0x80000000 ≤ value ∧ value ≤ 0xFFFFFFFF

/-- A value that is beyond the unsigned type. -/
def IsNegative (value : UInt64) : Prop := 0xFFFFFFFF80000000 ≤ value

/-- Values that no single type holds. -/
def Mixes (values : List UInt64) : Prop :=
  (∃ value ∈ values, IsHigh value) ∧ ∃ value ∈ values, IsNegative value

instance (value : UInt64) : Decidable (IsHigh value) := inferInstanceAs (Decidable (_ ∧ _))

instance (value : UInt64) : Decidable (IsNegative value) := inferInstanceAs (Decidable (_ ≤ _))

instance (values : List UInt64) : Decidable (Mixes values) := inferInstanceAs (Decidable (_ ∧ _))

theorem fits32Bits_iff (value : UInt64) :
    fits32Bits value = true ↔ ∃ type : WordType, type.Holds value := by
  rw [fits32Bits, Bool.or_eq_true, decide_eq_true_iff, decide_eq_true_iff]
  constructor
  · rintro (low | negative)
    · exact ⟨.unsigned, low⟩
    · exact ⟨.signed, .inr negative⟩
  · rintro ⟨_ | _, held⟩
    · exact .inl held
    · refine held.imp (fun low => ?_) id
      exact UInt64.le_trans low (by decide)

theorem toNat_of_fits {value : UInt64} (fits : fits32Bits value = true) :
    value.toNat ≤ 0xFFFFFFFF ∨ 0xFFFFFFFF80000000 ≤ value.toNat := by
  simpa [fits32Bits, UInt64.le_iff_toNat_le] using fits

theorem unsigned_holds_iff {value : UInt64} (fits : fits32Bits value = true) :
    WordType.unsigned.Holds value ↔ ¬IsNegative value := by
  have range := toNat_of_fits fits
  simp only [WordType.Holds, IsNegative, UInt64.le_iff_toNat_le, UInt64.reduceToNat]
  omega

theorem signed_holds_iff {value : UInt64} (fits : fits32Bits value = true) :
    WordType.signed.Holds value ↔ ¬IsHigh value := by
  have range := toNat_of_fits fits
  simp only [WordType.Holds, IsHigh, UInt64.le_iff_toNat_le, UInt64.reduceToNat]
  omega

theorem exists_forall_holds_iff {values : List UInt64}
    (fits : ∀ value ∈ values, fits32Bits value = true) :
    (∃ type : WordType, ∀ value ∈ values, type.Holds value) ↔ ¬Mixes values := by
  constructor
  · rintro ⟨_ | _, held⟩ ⟨⟨v, inV, high⟩, w, inW, negative⟩
    · exact (unsigned_holds_iff (fits w inW)).mp (held w inW) negative
    · exact (signed_holds_iff (fits v inV)).mp (held v inV) high
  · intro unmixed
    by_cases negatives : ∃ value ∈ values, IsNegative value
    · refine ⟨.signed, fun v member => (signed_holds_iff (fits v member)).mpr ?_⟩
      exact fun high => unmixed ⟨⟨v, member, high⟩, negatives⟩
    · refine ⟨.unsigned, fun v member => (unsigned_holds_iff (fits v member)).mpr ?_⟩
      exact fun negative => negatives ⟨v, member, negative⟩

/-- Of two values with the same low half, one is the unsigned and the other one the signed reading
of it. -/
theorem toUInt32_eq_iff {v w : UInt64} (fitsV : fits32Bits v = true) (fitsW : fits32Bits w = true)
    (distinct : v ≠ w) :
    v.toUInt32 = w.toUInt32 ↔
      IsHigh v ∧ w = v + 0xFFFFFFFF00000000 ∨ IsHigh w ∧ v = w + 0xFFFFFFFF00000000 := by
  have rangeV := toNat_of_fits fitsV
  have rangeW := toNat_of_fits fitsW
  have boundV := v.toNat_lt
  have boundW := w.toNat_lt
  rw [ne_eq, ← UInt64.toNat_inj] at distinct
  simp only [IsHigh, ← UInt64.toNat_inj, ← UInt32.toNat_inj, UInt64.le_iff_toNat_le,
    UInt64.toNat_toUInt32, UInt64.toNat_add, UInt64.reduceToNat]
  omega

/-! ## Enums -/

namespace EnumDecl

variable {decl : EnumDecl}

theorem getElem?_constants (decl : EnumDecl) (i : Nat) :
    decl.constants[i]? = decl.values[i]?.map fun v => (ident v.name s!"VALUE_{i}", v) :=
  List.getElem?_mapIdx

/-- The values that become constants, under their identifiers. -/
def kept (decl : EnumDecl) : List (String × Enumerator) := firstBy (·.1) [] decl.constants

theorem mem_values_of_mem_kept {entry : String × Enumerator} (member : entry ∈ decl.kept) :
    entry.2 ∈ decl.values := by
  obtain ⟨i, bound, rfl⟩ := List.mem_mapIdx.mp ((firstBy_sublist _ _ _).subset member)
  exact List.getElem_mem bound

theorem storage_eq_word32_iff :
    decl.storage = .word32 ↔ ∀ v ∈ decl.values, fits32Bits v.value = true := by
  rw [storage, ← List.all_eq_true]
  split <;> simp_all

theorem storedBits_of_word32 (narrow : decl.storage = .word32) (value : UInt64) :
    decl.storedBits value = value.toUInt32.toUInt64 := by
  rw [storedBits, narrow]

end EnumDecl

/-- Widening gives back the value that an emitted constant stands for. -/
def WordType.Restores (type : WordType) (constant : String × UInt64)
    (entry : String × Enumerator) : Prop :=
  constant.1 = entry.1 ∧ type.widen constant.2.toUInt32 = entry.2.value

namespace EnumDecl

variable {decl : EnumDecl} (narrow : decl.storage = .word32)

include narrow

theorem fits_of_mem_kept {entry : String × Enumerator} (member : entry ∈ decl.kept) :
    fits32Bits entry.2.value = true :=
  storage_eq_word32_iff.mp narrow entry.2 (mem_values_of_mem_kept member)

/-- A relation between the constants and their values is one between the low half and the whole of
each value. -/
theorem forall₂_constants_iff (restores : String × UInt64 → String × Enumerator → Prop) :
    List.Forall₂ restores decl.item.constants decl.kept ↔
      ∀ entry ∈ decl.kept, restores (entry.1, entry.2.value.toUInt32.toUInt64) entry := by
  have constants : decl.item.constants =
      decl.kept.map fun entry => (entry.1, decl.storedBits entry.2.value) := rfl
  simp only [constants, storedBits_of_word32 narrow, List.forall₂_map_left_iff, List.forall₂_same]

omit narrow in
theorem restores_iff (type : WordType) (entry : String × Enumerator) :
    type.Restores (entry.1, entry.2.value.toUInt32.toUInt64) entry ↔
      type.Holds entry.2.value := by
  rw [WordType.Restores, UInt32.toUInt32_toUInt64, type.widen_toUInt32_eq_iff]
  exact and_iff_right rfl

theorem exists_holds_iff :
    (∃ type : WordType, ∀ v ∈ decl.values, type.Holds v.value) ↔
      ¬Mixes (decl.values.map (·.value)) := by
  have fits : ∀ value ∈ decl.values.map (·.value), fits32Bits value = true :=
    List.forall_mem_map.mpr (storage_eq_word32_iff.mp narrow)
  rw [← exists_forall_holds_iff fits]
  exact exists_congr fun type => List.forall_mem_map.symm

/-- One widening restores every constant when one type holds every value. -/
theorem exists_restores_iff :
    (∃ type : WordType, List.Forall₂ type.Restores decl.item.constants decl.kept) ↔
      ¬Mixes (decl.kept.map (·.2.value)) := by
  have fits : ∀ value ∈ decl.kept.map (·.2.value), fits32Bits value = true :=
    List.forall_mem_map.mpr fun _ member => fits_of_mem_kept narrow member
  rw [← exists_forall_holds_iff fits]
  refine exists_congr fun type => ?_
  rw [forall₂_constants_iff narrow, List.forall_mem_map]
  exact forall₂_congr fun entry _ => restores_iff type entry

end EnumDecl

/-! ## The statement -/

/-- What the 32-bit word of an enum keeps: each constant is widened back to its value by one of the
two types, and all of them by one type unless the values mix. Then two values with one constant may
appear, the unsigned and the signed reading of it. -/
structure StoresValues (decl : EnumDecl) : Prop where
  entries : ∀ i : Nat, decl.constants[i]? =
    decl.values[i]?.map fun v => (ident v.name s!"VALUE_{i}", v)
  each : List.Forall₂ (fun constant entry => ∃ type : WordType, type.Restores constant entry)
    decl.item.constants decl.kept
  whole : (∃ type : WordType, List.Forall₂ type.Restores decl.item.constants decl.kept) ↔
    ¬Mixes (decl.kept.map (·.2.value))
  shared : ∀ v ∈ decl.kept, ∀ w ∈ decl.kept, v.2.value ≠ w.2.value →
    (decl.storedBits v.2.value = decl.storedBits w.2.value ↔
      IsHigh v.2.value ∧ w.2.value = v.2.value + 0xFFFFFFFF00000000 ∨
      IsHigh w.2.value ∧ v.2.value = w.2.value + 0xFFFFFFFF00000000)
  chosen : (∃ type : WordType, ∀ v ∈ decl.values, type.Holds v.value) ↔
    ¬Mixes (decl.values.map (·.value))

theorem storesValues {decl : EnumDecl} (narrow : decl.storage = .word32) : StoresValues decl where
  entries := decl.getElem?_constants
  each := by
    refine (EnumDecl.forall₂_constants_iff narrow _).mpr fun entry member => ?_
    obtain ⟨type, held⟩ := (fits32Bits_iff _).mp (EnumDecl.fits_of_mem_kept narrow member)
    exact ⟨type, (EnumDecl.restores_iff type entry).mpr held⟩
  whole := EnumDecl.exists_restores_iff narrow
  shared v inV w inW distinct := by
    have fitsV := EnumDecl.fits_of_mem_kept narrow inV
    have fitsW := EnumDecl.fits_of_mem_kept narrow inW
    rw [EnumDecl.storedBits_of_word32 narrow, EnumDecl.storedBits_of_word32 narrow,
      UInt32.toUInt64_inj]
    exact toUInt32_eq_iff fitsV fitsW distinct
  chosen := EnumDecl.exists_holds_iff narrow

/-- A flag that fills the unsigned type. -/
theorem storesValues_all :
    let mask : EnumDecl := ⟨"Mask", [⟨"FIRST", 1⟩, ⟨"ALL", 0xFFFFFFFF⟩], none⟩
    mask.storage = .word32 ∧
      ∃ type : WordType, List.Forall₂ type.Restores mask.item.constants mask.kept := by
  intro mask
  have narrow : mask.storage = .word32 := by decide
  exact ⟨narrow, (storesValues narrow).whole.mpr (by decide)⟩

/-- The same flag beside -1: both have the same 32 bits. -/
theorem storage_all_none_shared :
    let mask : EnumDecl := ⟨"Mask", [⟨"ALL", 0xFFFFFFFF⟩, ⟨"NONE", 0xFFFFFFFFFFFFFFFF⟩], none⟩
    mask.storage = .word32 ∧
      mask.item.constants = [("ALL", 4294967295), ("NONE", 4294967295)] ∧
      (¬∃ type : WordType, List.Forall₂ type.Restores mask.item.constants mask.kept) ∧
      ¬∃ type : WordType, ∀ v ∈ mask.values, type.Holds v.value := by
  intro mask
  have narrow : mask.storage = .word32 := by decide
  refine ⟨narrow, by decide, fun restored => ?_, fun held => ?_⟩
  · exact (EnumDecl.exists_restores_iff narrow).mp restored (by decide)
  · exact (EnumDecl.exists_holds_iff narrow).mp held (by decide)

end ForeignBindings
