import ForeignBindings.Proofs.EnumStorage
import ForeignBindings.Proofs.ScopeNames
import Mathlib.Algebra.Group.Nat.Defs

/-!
# Combinations of enumerators

Enumerators are bit masks that are combined by `|` and `&`. Combining constants in the word of the
enum gives the low bits of the combined 64-bit patterns, and 32 bits are enough for every combination
if they are enough for each enumerator (`combinesConstants`).
-/

namespace ForeignBindings
open Identifier Layout Text

/-- The operators that combine enumerators. -/
inductive Operator
  | or | and

def Operator.apply {α : Type} [OrOp α] [AndOp α] : Operator → α → α → α
  | or, a, b => a ||| b
  | and, a, b => a &&& b

/-- Enumerators, under their identifiers, and combinations of them. -/
inductive Combination
  | constant (name : String)
  | combine (operator : Operator) (left right : Combination)

namespace Combination

def names : Combination → List String
  | constant name => [name]
  | combine _ left right => left.names ++ right.names

theorem lookup_map {α β : Type} (f : α → β) (values : List (String × α)) (name : String) :
    (values.map fun entry => (entry.1, f entry.2)).lookup name = (values.lookup name).map f := by
  induction values with
  | nil => rfl
  | cons entry values ih =>
      rw [List.map_cons, List.lookup_cons, List.lookup_cons, ih]
      cases name == entry.1 <;> rfl

theorem isSome_lookup_iff {α : Type} {values : List (String × α)} {name : String} :
    (values.lookup name).isSome ↔ name ∈ values.map (·.1) := by
  induction values with
  | nil => simp
  | cons entry values ih =>
      rw [List.lookup_cons, List.map_cons, List.mem_cons, ← ih]
      by_cases same : name = entry.1
      · simp [same]
      · have other : (name == entry.1) = false := beq_eq_false_iff_ne.mpr same
        rw [other]
        exact (or_iff_right same).symm

variable {α β : Type} [OrOp α] [AndOp α] [OrOp β] [AndOp β] {values : List (String × α)}

/-- What a combination comes to when its identifiers have the given values. -/
def value? (values : List (String × α)) : Combination → Option α
  | constant name => values.lookup name
  | combine operator left right => do
    return operator.apply (← left.value? values) (← right.value? values)

theorem value?_map {f : α → β}
    (respects : ∀ (operator : Operator) a b, f (operator.apply a b) = operator.apply (f a) (f b))
    (c : Combination) :
    c.value? (values.map fun entry => (entry.1, f entry.2)) = (c.value? values).map f := by
  induction c with
  | constant name => exact lookup_map f values name
  | combine operator left right ihLeft ihRight =>
      rw [value?, value?, ihLeft, ihRight]
      cases left.value? values <;> cases right.value? values <;> simp [respects]

theorem of_value? {P : α → Prop}
    (closed : ∀ (operator : Operator) a b, P a → P b → P (operator.apply a b))
    (each : ∀ entry ∈ values, P entry.2) {c : Combination} {a : α}
    (found : c.value? values = some a) : P a := by
  induction c generalizing a with
  | constant name =>
      obtain ⟨before, after, rfl, -⟩ := List.lookup_eq_some_iff.mp found
      exact each (name, a) (by simp)
  | combine operator left right ihLeft ihRight =>
      obtain ⟨b, foundLeft, rest⟩ := Option.bind_eq_some_iff.mp found
      obtain ⟨b', foundRight, same⟩ := Option.bind_eq_some_iff.mp rest
      cases same
      exact closed operator b b' (ihLeft foundLeft) (ihRight foundRight)

theorem isSome_value?_iff {c : Combination} :
    (c.value? values).isSome ↔ c.names ⊆ values.map (·.1) := by
  induction c with
  | constant name =>
      rw [value?, isSome_lookup_iff, names, List.cons_subset]
      exact (and_iff_left (List.nil_subset _)).symm
  | combine operator left right ihLeft ihRight =>
      rw [names, List.append_subset, ← ihLeft, ← ihRight, value?]
      cases left.value? values <;> cases right.value? values <;> simp

/-- With distinct identifiers, each stands for its own value. -/
theorem value?_constant (distinct : (values.map (·.1)).Nodup) {entry : String × α}
    (member : entry ∈ values) : (constant entry.1).value? values = some entry.2 := by
  induction values with
  | nil => cases member
  | cons first values ih =>
      obtain ⟨fresh, distinct⟩ := List.nodup_cons.mp distinct
      rw [value?, List.lookup_cons]
      rcases List.mem_cons.mp member with rfl | member
      · rw [beq_self_eq_true]
      · have other : (entry.1 == first.1) = false := by
          rw [beq_eq_false_iff_ne]
          exact fun same => fresh (List.mem_map.mpr ⟨entry, member, same⟩)
        rw [other]
        exact ih distinct member

end Combination

/-! ## Patterns that fit -/

/-- The upper 33 bits of a pattern that fits are all zero, all zero but the last, or all one. -/
theorem fits32Bits_iff_upper (value : UInt64) :
    fits32Bits value = true ↔ value.toNat >>> 31 ∈ [0, 1, 2 ^ 33 - 1] := by
  -- Shifting keeps the order, so the two intervals become those below two and from the top value on.
  have bound := value.toNat_lt
  rw [fits32Bits, Bool.or_eq_true, decide_eq_true_iff, decide_eq_true_iff,
    Nat.shiftRight_eq_div_pow]
  simp only [UInt64.le_iff_toNat_le, UInt64.reduceToNat, List.mem_cons, List.not_mem_nil, or_false]
  omega

theorem upper_closed : ∀ a ∈ [0, 1, 2 ^ 33 - 1], ∀ b ∈ [0, 1, 2 ^ 33 - 1],
    a ||| b ∈ [0, 1, 2 ^ 33 - 1] ∧ a &&& b ∈ [0, 1, 2 ^ 33 - 1] := by
  decide

theorem fits32Bits_apply (operator : Operator) (a b : UInt64) (fitsA : fits32Bits a = true)
    (fitsB : fits32Bits b = true) : fits32Bits (operator.apply a b) = true := by
  rw [fits32Bits_iff_upper] at *
  obtain ⟨inOr, inAnd⟩ := upper_closed _ fitsA _ fitsB
  cases operator with
  | or => rwa [Operator.apply, UInt64.toNat_or, Nat.shiftRight_or_distrib]
  | and => rwa [Operator.apply, UInt64.toNat_and, Nat.shiftRight_and_distrib]

/-! ## Emitted constants -/

def Storage.width : Storage → Nat
  | word32 => 32
  | word64 => 64

/-- The low bits of a pattern. -/
def Storage.low (storage : Storage) (value : UInt64) : BitVec storage.width :=
  value.toBitVec.setWidth storage.width

theorem Storage.low_apply (storage : Storage) (operator : Operator) (a b : UInt64) :
    storage.low (operator.apply a b) = operator.apply (storage.low a) (storage.low b) := by
  cases operator with
  | or => exact BitVec.setWidth_or
  | and => exact BitVec.setWidth_and

namespace EnumItem

/-- The constants of an enum, in its word. -/
def words (item : EnumItem) : List (String × BitVec item.storage.width) :=
  item.constants.map fun (name, bits) => (name, BitVec.ofNat _ bits.toNat)

/-- The line that declares an enum as a word of some width. -/
def wordLine (item : EnumItem) : String :=
  s!"pub struct {item.name}(pub u{item.storage.width});"

def constantLines (item : EnumItem) : List String :=
  item.constants.map fun (name, bits) => "    " ++ s!"pub const {name}: Self = Self({bits});"

theorem wordLine_mem_lines (item : EnumItem) : item.wordLine ∈ item.lines := by
  have named : item.wordLine = s!"pub struct {item.name}(pub {item.storage.name});" := by
    unfold wordLine
    cases item.storage <;> simp only [Storage.name, Storage.width, toString_string,
      String.append_assoc] <;> rfl
  rw [named]
  simp [lines]

theorem constantLines_infix_lines (item : EnumItem) : item.constantLines <:+: item.lines := by
  refine List.IsInfix.trans ?_ item.implBlock_infix_lines
  have indented : item.constantLines = indent (item.constants.map fun (name, bits) =>
      s!"pub const {name}: Self = Self({bits});") := by
    rw [indent, List.map_map]
    refine List.map_congr_left fun constant _ => ?_
    simp
  rw [indented, implBlock, block, indent, indent, List.map_append]
  exact (List.prefix_append _ _).isInfix.trans (List.infix_append [_] _ _)

end EnumItem

/-- The input patterns of enumerators under their identifiers. -/
def patterns (entries : List (String × Enumerator)) : List (String × UInt64) :=
  entries.map fun (name, v) => (name, v.value)

namespace EnumDecl

/-- The values that do not become constants, because their identifiers are taken. -/
def dropped (decl : EnumDecl) : List (String × Enumerator) := repeatsBy (·.1) [] decl.constants

theorem toNat_storedBits_lt (decl : EnumDecl) (value : UInt64) :
    (decl.storedBits value).toNat < 2 ^ decl.storage.width := by
  have bound := value.toNat_lt
  unfold storedBits
  cases decl.storage with
  | word32 =>
      rw [UInt32.toNat_toUInt64]
      exact value.toUInt32.toNat_lt
  | word64 => exact bound

theorem ofNat_storedBits (decl : EnumDecl) (value : UInt64) :
    BitVec.ofNat decl.storage.width (decl.storedBits value).toNat = decl.storage.low value := by
  apply BitVec.eq_of_toNat_eq
  unfold storedBits Storage.low
  cases decl.storage with
  | word32 => simp [Storage.width]
  | word64 => simp [Storage.width]

theorem words_item (decl : EnumDecl) :
    decl.item.words = (patterns decl.kept).map fun entry => (entry.1, decl.storage.low entry.2) := by
  have words : decl.item.words = (decl.kept.map fun entry =>
      (entry.1, decl.storedBits entry.2.value)).map fun (name, bits) =>
        (name, BitVec.ofNat decl.storage.width bits.toNat) := rfl
  rw [words, patterns, List.map_map, List.map_map]
  exact List.map_congr_left fun entry _ => congrArg (entry.1, ·) (ofNat_storedBits decl entry.2.value)

theorem mem_kept_iff {decl : EnumDecl} {entry : String × Enumerator} :
    entry ∈ decl.kept ↔ IsFirst (·.1) decl.constants entry := by
  rw [kept, mem_firstBy_iff]
  exact and_iff_right List.not_mem_nil

end EnumDecl

/-! ## The statement -/

/-- The entries of an enum are its values under their identifiers. Its constants are the entries that
come first with their identifier, and there is a warning for each of the others; they stand in the
emitted lines, below the word that stores them. A combination of constants has the low bits of the
same combination of patterns, which fits in 32 bits when the constants are stored in 32. -/
structure CombinesConstants (decl : EnumDecl) : Prop where
  entries : ∀ i : Nat, decl.constants[i]? =
    decl.values[i]?.map fun v => (ident v.name s!"VALUE_{i}", v)
  kept : KeepsFirst (·.1) decl.constants decl.kept decl.dropped
  first : ∀ entry, entry ∈ decl.kept ↔ IsFirst (·.1) decl.constants entry
  distinct : (decl.kept.map (·.1)).Nodup
  named : decl.item.constants.map (·.1) = decl.kept.map (·.1)
  warned : decl.events.filter (·.level = .warn) =
    decl.dropped.map fun entry => .duplicateEnumerator decl.name entry.2.name
  word : decl.item.wordLine ∈ decl.item.lines
  emitted : decl.item.constantLines <:+: decl.item.lines
  fits : ∀ constant ∈ decl.item.constants, constant.2.toNat < 2 ^ decl.storage.width
  single : ∀ entry ∈ decl.kept,
    (Combination.constant entry.1).value? (patterns decl.kept) = some entry.2.value
  defined : ∀ c : Combination,
    (c.value? (patterns decl.kept)).isSome ↔ c.names ⊆ decl.kept.map (·.1)
  combined : ∀ c : Combination,
    c.value? decl.item.words = (c.value? (patterns decl.kept)).map decl.storage.low
  closed : decl.storage = .word32 → ∀ (c : Combination) (value : UInt64),
    c.value? (patterns decl.kept) = some value → fits32Bits value = true

theorem combinesConstants (decl : EnumDecl) : CombinesConstants decl where
  entries := decl.getElem?_constants
  kept := keepsFirst _ _ _
  first _ := EnumDecl.mem_kept_iff
  distinct := keys_nodup_firstBy _ _ _
  named := by
    have constants : decl.item.constants =
        decl.kept.map fun entry => (entry.1, decl.storedBits entry.2.value) := rfl
    rw [constants, List.map_map]
    rfl
  warned := by
    have noWarning (name storage : String) (count : Nat) :
        [Event.emittedEnum name count storage].filter (·.level = .warn) = [] := rfl
    rw [EnumDecl.events, List.filter_append, noWarning, List.append_nil]
    refine List.filter_eq_self.mpr fun event member => ?_
    obtain ⟨entry, -, rfl⟩ := List.mem_map.mp member
    rfl
  word := decl.item.wordLine_mem_lines
  emitted := decl.item.constantLines_infix_lines
  fits constant member := by
    obtain ⟨entry, -, rfl⟩ := List.mem_map.mp member
    exact decl.toNat_storedBits_lt entry.2.value
  single entry member := by
    have distinct : ((patterns decl.kept).map (·.1)).Nodup := by
      rw [patterns, List.map_map]
      exact keys_nodup_firstBy _ _ _
    exact Combination.value?_constant distinct (List.mem_map_of_mem member)
  defined c := by
    rw [Combination.isSome_value?_iff, patterns, List.map_map]
    rfl
  combined c := by
    rw [decl.words_item]
    exact Combination.value?_map decl.storage.low_apply c
  closed narrow c value := by
    refine Combination.of_value? fits32Bits_apply fun entry member => ?_
    obtain ⟨kept, inKept, rfl⟩ := List.mem_map.mp member
    exact EnumDecl.fits_of_mem_kept narrow inKept

end ForeignBindings
