import Mathlib.Data.List.Basic
import ForeignBindings.Text.Bytes

/-!
# Cutting texts at byte offsets

A text can be cut exactly where one of its parts ends (`cutAt?_eq_some_iff`), which is where its
encoded string has a valid position (`isValid_iff`). A seven-bit character is encoded as one byte,
and no other character has a byte below 128 (`isWide_of_mem`), so that where such a byte stands a
character starts and ends (`exists_split_of_sevenBit`).
-/

namespace ForeignBindings.Text

theorem utf8_cons (c : Char) (cs : List Char) :
    utf8 (c :: cs) = String.utf8EncodeChar c ++ utf8 cs :=
  List.flatMap_cons

theorem utf8_append (cs ds : List Char) : utf8 (cs ++ ds) = utf8 cs ++ utf8 ds :=
  List.flatMap_append

theorem length_utf8_cons (c : Char) (cs : List Char) :
    (utf8 (c :: cs)).length = c.utf8Size + (utf8 cs).length := by
  rw [utf8_cons, List.length_append, String.length_utf8EncodeChar]

/-! ## Cuts -/

theorem cutAt?_width_add (c : Char) (offset : Nat) (cs : List Char) :
    cutAt? (c.utf8Size + offset) (c :: cs) =
      (cutAt? offset cs).map fun (before, after) => (c :: before, after) := by
  obtain ⟨width, wide⟩ := Nat.exists_eq_succ_of_ne_zero (Nat.ne_of_gt c.utf8Size_pos)
  have behind : width + offset + 1 - (width + 1) = offset := by omega
  rw [wide, Nat.succ_eq_add_one, Nat.add_right_comm, cutAt?, wide, Nat.succ_eq_add_one,
    if_pos (by omega), behind]

theorem cutAt?_length_append (before after : List Char) :
    cutAt? (utf8 before).length (before ++ after) = some (before, after) := by
  induction before with
  | nil => cases after <;> rfl
  | cons c before ih =>
      rw [length_utf8_cons, List.cons_append, cutAt?_width_add, ih]
      rfl

theorem eq_append_of_cutAt? {offset : Nat} {cs before after : List Char}
    (cut : cutAt? offset cs = some (before, after)) :
    cs = before ++ after ∧ offset = (utf8 before).length := by
  induction cs generalizing offset before with
  | nil =>
      cases offset with
      | zero =>
          obtain ⟨rfl, rfl⟩ := Prod.mk.inj (Option.some.inj cut)
          exact ⟨rfl, rfl⟩
      | succ offset => cases cut
  | cons c cs ih =>
      cases offset with
      | zero =>
          obtain ⟨rfl, rfl⟩ := Prod.mk.inj (Option.some.inj cut)
          exact ⟨rfl, rfl⟩
      | succ offset =>
          rw [cutAt?] at cut
          split at cut
          · rename_i fits
            obtain ⟨⟨front, back⟩, later, same⟩ := Option.map_eq_some_iff.mp cut
            obtain ⟨rfl, rfl⟩ := Prod.mk.inj same
            obtain ⟨rfl, width⟩ := ih later
            refine ⟨rfl, ?_⟩
            rw [length_utf8_cons]
            omega
          · cases cut

theorem cutAt?_eq_some_iff {offset : Nat} {cs before after : List Char} :
    cutAt? offset cs = some (before, after) ↔
      cs = before ++ after ∧ offset = (utf8 before).length := by
  refine ⟨eq_append_of_cutAt?, ?_⟩
  rintro ⟨rfl, rfl⟩
  exact cutAt?_length_append before after

theorem utf8ByteSize_ofList (cs : List Char) :
    (String.ofList cs).utf8ByteSize = (utf8 cs).length := by
  rw [← String.size_toByteArray, String.toByteArray_ofList, List.utf8Encode,
    List.size_toByteArray, utf8]

/-- A text can be cut where its string has a position between two characters. -/
theorem isValid_iff {offset : Nat} {cs : List Char} :
    (String.Pos.Raw.mk offset).IsValid (String.ofList cs) ↔ (cutAt? offset cs).isSome := by
  rw [String.Pos.Raw.isValid_iff_exists_append]
  constructor
  · rintro ⟨front, back, whole, place⟩
    have text : cs = front.toList ++ back.toList := by
      rw [← String.toList_append, ← whole, String.toList_ofList]
    have width : offset = (utf8 front.toList).length := by
      rw [← utf8ByteSize_ofList, String.ofList_toList]
      exact congrArg String.Pos.Raw.byteIdx place
    rw [cutAt?_eq_some_iff.mpr ⟨text, width⟩]
    rfl
  · intro cut
    obtain ⟨⟨before, after⟩, cut⟩ := Option.isSome_iff_exists.mp cut
    obtain ⟨rfl, rfl⟩ := cutAt?_eq_some_iff.mp cut
    refine ⟨String.ofList before, String.ofList after, String.ofList_append, ?_⟩
    rw [String.rawEndPos, utf8ByteSize_ofList]

/-! ## Bytes below 128 -/

theorem isWide_of_mem {c : Char} (wide : c.utf8Size ≠ 1) {b : UInt8}
    (member : b ∈ String.utf8EncodeChar c) : 128 ≤ b.toNat := by
  have above : 127 < c.val.toNat := by
    rw [Ne, Char.utf8Size_eq_one_iff, UInt32.le_iff_toNat_le] at wide
    exact Nat.lt_of_not_le wide
  unfold String.utf8EncodeChar at member
  dsimp only at member
  rw [if_neg (Nat.not_le_of_lt above)] at member
  -- Each byte of a longer encoding is at least 128 and does not wrap.
  split at member
  · simp only [List.mem_cons, List.not_mem_nil, or_false] at member
    rcases member with rfl | rfl <;> rw [UInt8.toNat_ofNat'] <;> omega
  · split at member
    · simp only [List.mem_cons, List.not_mem_nil, or_false] at member
      rcases member with rfl | rfl | rfl <;> rw [UInt8.toNat_ofNat'] <;> omega
    · simp only [List.mem_cons, List.not_mem_nil, or_false] at member
      rcases member with rfl | rfl | rfl | rfl <;> rw [UInt8.toNat_ofNat'] <;> omega

theorem utf8_cons_of_sevenBit {c : Char} (narrow : c.utf8Size = 1) (cs : List Char) :
    utf8 (c :: cs) = c.toUInt8 :: utf8 cs := by
  rw [utf8_cons, String.utf8EncodeChar_eq_singleton narrow, Char.toUInt8_val, List.singleton_append]

theorem toNat_le_of_sevenBit {c : Char} (narrow : c.utf8Size = 1) : c.toNat ≤ 127 :=
  UInt32.le_iff_toNat_le.mp (Char.utf8Size_eq_one_iff.mp narrow)

theorem toNat_toUInt8 {c : Char} (narrow : c.utf8Size = 1) : c.toUInt8.toNat = c.toNat := by
  have fits : c.toNat < 2 ^ 8 := Nat.lt_of_le_of_lt (toNat_le_of_sevenBit narrow) (by decide)
  exact (UInt32.toNat_toUInt8 c.val).trans (Nat.mod_eq_of_lt fits)

theorem ofUInt8_toUInt8 {c : Char} (narrow : c.utf8Size = 1) : Char.ofUInt8 c.toUInt8 = c :=
  Char.toNat_inj.mp (toNat_toUInt8 narrow)

theorem toUInt8_inj {c d : Char} (first : c.utf8Size = 1) (second : d.utf8Size = 1) :
    c.toUInt8 = d.toUInt8 ↔ c = d := by
  refine ⟨fun same => ?_, congrArg Char.toUInt8⟩
  rw [← ofUInt8_toUInt8 first, same, ofUInt8_toUInt8 second]

theorem ne_toUInt8_of_wide {c d : Char} (wide : c.utf8Size ≠ 1) (narrow : d.utf8Size = 1)
    {b : UInt8} (member : b ∈ String.utf8EncodeChar c) : b ≠ d.toUInt8 := by
  have large := isWide_of_mem wide member
  have small := toNat_le_of_sevenBit narrow
  rintro rfl
  rw [toNat_toUInt8 narrow] at large
  omega

/-- The byte of a seven-bit character stands for that character only. -/
theorem ne_toUInt8_of_mem_utf8 {c : Char} (narrow : c.utf8Size = 1) {cs : List Char}
    (absent : c ∉ cs) {b : UInt8} (member : b ∈ utf8 cs) : b ≠ c.toUInt8 := by
  obtain ⟨d, there, encoded⟩ := List.mem_flatMap.mp member
  by_cases width : d.utf8Size = 1
  · rw [String.utf8EncodeChar_eq_singleton width, Char.toUInt8_val, List.mem_singleton] at encoded
    rintro rfl
    exact absent ((toUInt8_inj narrow width).mp encoded ▸ there)
  · exact ne_toUInt8_of_wide width narrow encoded

theorem exists_utf8EncodeChar (c : Char) : ∃ b bytes, String.utf8EncodeChar c = b :: bytes := by
  refine List.exists_cons_of_ne_nil fun nothing => ?_
  have width := String.length_utf8EncodeChar c
  rw [nothing] at width
  exact Nat.ne_of_lt c.utf8Size_pos width

/-- Where a byte below 128 stands, a seven-bit character stands. -/
theorem exists_split_of_sevenBit {cs : List Char} {i : Nat} {b : UInt8}
    (found : (utf8 cs)[i]? = some b) (narrow : b.toNat < 128) :
    ∃ before c after, cs = before ++ c :: after ∧ i = (utf8 before).length ∧ c.utf8Size = 1 ∧
      c.toUInt8 = b := by
  induction cs generalizing i with
  | nil => cases found
  | cons c cs ih =>
      by_cases inside : i < c.utf8Size
      · have head : (String.utf8EncodeChar c)[i]? = some b := by
          have within : i < (String.utf8EncodeChar c).length := by
            rwa [String.length_utf8EncodeChar]
          rwa [utf8_cons, List.getElem?_append_left within] at found
        have single : c.utf8Size = 1 := by
          by_contra wide
          have := isWide_of_mem wide (List.mem_of_getElem? head)
          omega
        obtain rfl : i = 0 := by omega
        rw [String.utf8EncodeChar_eq_singleton single, Char.toUInt8_val] at head
        exact ⟨[], c, cs, rfl, rfl, single, Option.some.inj head⟩
      · have later : (utf8 cs)[i - c.utf8Size]? = some b := by
          have behind : (String.utf8EncodeChar c).length ≤ i := by
            rw [String.length_utf8EncodeChar]
            exact Nat.le_of_not_lt inside
          rwa [utf8_cons, List.getElem?_append_right behind, String.length_utf8EncodeChar] at found
        obtain ⟨before, d, after, rfl, place, single, same⟩ := ih later
        refine ⟨c :: before, d, after, rfl, ?_, single, same⟩
        rw [length_utf8_cons]
        omega

end ForeignBindings.Text
