import Mathlib.Data.List.Pairwise
import ForeignBindings.Proofs.Outcome
import ForeignBindings.Settings

/-!
# Formats of records

A format lists the fields of a record: their keys, what stands there, and the value that a missing
one counts as. Reading entries along a format takes one step for each entry. No order of entries is
better than another, entries under other keys change nothing, and neither does one that holds its
default.
-/

namespace ForeignBindings
open Document

/-- What a value stands for, by where it stands. -/
inductive Slot
  | text
  | optionalText
  | flag
  | pattern
  | kind (mayBeNumber : Bool)
  | parameter
  | field
  | enumerator
  | declaration (mayBeNumber : Bool)
  | listOf (item : Slot)
  /-- Under a key that is no field. Inside a declaration such values are looked through. -/
  | unread (inDeclaration : Bool)
  | file

namespace Slot

@[reducible]
def Result : Slot → Type
  | text => String
  | optionalText => Option String
  | flag => Bool
  | pattern => UInt64
  | kind _ => Kind
  | parameter => Parameter
  | field => Field
  | enumerator => Enumerator
  | declaration _ => Declaration
  | listOf item => List item.Result
  | unread _ => Unit
  | file => List Declaration

def read : (slot : Slot) → Value → Except DocumentError slot.Result
  | text, v => v.text
  | optionalText, v => v.optionalText
  | flag, v => v.flag
  | pattern, v => decodePattern v
  | kind mayBeNumber, v => Declaration.decodeKind mayBeNumber v
  | parameter, v => Parameter.decode v
  | field, v => Field.decode v
  | enumerator, v => Enumerator.decode v
  | declaration mayBeNumber, v => Declaration.decode v mayBeNumber
  | listOf item, v => v.listOf item.read
  | unread true, v => Declaration.refuseWide v
  | unread false, _ => .ok ()
  | file, v => Declaration.decodeFile v

@[simp]
theorem read_text (s : String) : text.read (.string s) = .ok s := rfl

@[simp]
theorem read_optionalText_null : optionalText.read .null = .ok none := rfl

@[simp]
theorem read_flag (b : Bool) : flag.read (.bool b) = .ok b := rfl

@[simp]
theorem read_listOf_nil (item : Slot) : (listOf item).read (.list []) = .ok [] := rfl

end Slot

/-- A key of a record. One that may be missing has a default. -/
structure FieldSpec where
  key : String
  slot : Slot
  default? : Option Value

/-- The slot of the value of a key in a record with some fields. -/
def Slot.under (specs : List FieldSpec) (inDeclaration : Bool) (key : String) : Slot :=
  match specs.find? (·.key == key) with
  | some spec => spec.slot
  | none => .unread inDeclaration

/-- A key of a record, with the way in which what is read there becomes part of it. -/
structure FieldFormat (Given : Type) extends FieldSpec where
  set : slot.Result → Given → Given

namespace FieldFormat

variable {Given : Type}

@[simp]
def required (key : String) (slot : Slot) (set : slot.Result → Given → Given) :
    FieldFormat Given :=
  ⟨⟨key, slot, none⟩, set⟩

@[simp]
def defaulted (key : String) (slot : Slot) (default : Value)
    (set : slot.Result → Given → Given) : FieldFormat Given :=
  ⟨⟨key, slot, some default⟩, set⟩

/-- It makes no difference which of two fields is set first. -/
def Apart (f g : FieldFormat Given) : Prop :=
  ∀ a b given, f.set a (g.set b given) = g.set b (f.set a given)

instance : Std.Symm (@Apart Given) := ⟨fun _ _ apart b a given => (apart a b given).symm⟩

end FieldFormat

/-- How a record is read from its entries, by way of the fields that are given so far. -/
structure RecordFormat (Given α : Type) where
  start : Given
  fields : List (FieldFormat Given)
  /-- Whether the values of other keys are looked through. -/
  inDeclaration : Bool
  result : Given → Option α

namespace RecordFormat

variable {Given α : Type} (format : RecordFormat Given α)

def specs : List FieldSpec := format.fields.map (·.toFieldSpec)

/-- What an entry makes of the fields that are given so far. -/
def change : String × Value → Except DocumentError (Given → Given)
  | (key, v) =>
    match format.fields.find? (·.key == key) with
    | some field => field.set <$> field.slot.read v
    | none => (fun _ => id) <$> (Slot.unread format.inDeclaration).read v

def step (given : Given) (entry : String × Value) : Except DocumentError Given :=
  (· given) <$> format.change entry

/-- Some entries give a record. -/
def Reads (entries : List (String × Value)) (a : α) : Prop :=
  ∃ given, entries.foldlM format.step format.start = .ok given ∧ format.result given = some a

/-- The keys are different, the fields are apart from each other, and a default leaves the record as
it is at the start. -/
structure Lawful : Prop where
  distinct : (format.fields.map (·.key)).Nodup
  apart : format.fields.Pairwise FieldFormat.Apart
  idle : ∀ f ∈ format.fields, ∀ v, f.default? = some v →
    ∃ a, f.slot.read v = .ok a ∧ f.set a format.start = format.start

variable {format}

/-! ## Single entries -/

theorem find?_of_mem {β : Type} {keyOf : β → String} {xs : List β}
    (distinct : (xs.map keyOf).Nodup) {x : β} (member : x ∈ xs) :
    xs.find? (keyOf · == keyOf x) = some x := by
  induction xs with
  | nil => cases member
  | cons first xs ih =>
      rw [List.map_cons, List.nodup_cons] at distinct
      rcases List.mem_cons.mp member with rfl | later
      · rw [List.find?_cons, beq_self_eq_true]
      · have other : keyOf first ≠ keyOf x := fun same =>
          distinct.1 (same ▸ List.mem_map_of_mem later)
        rw [List.find?_cons, beq_false_of_ne other]
        exact ih distinct.2 later

theorem find?_of_notMem {β : Type} {keyOf : β → String} {xs : List β} {key : String}
    (unknown : key ∉ xs.map keyOf) : xs.find? (keyOf · == key) = none := by
  rw [List.find?_eq_none]
  intro x member same
  exact unknown (List.mem_map.mpr ⟨x, member, beq_iff_eq.mp same⟩)

theorem keys_specs : format.specs.map (·.key) = format.fields.map (·.key) := List.map_map

theorem change_of_mem (lawful : format.Lawful) {f : FieldFormat Given}
    (member : f ∈ format.fields) (v : Value) :
    format.change (f.key, v) = f.set <$> f.slot.read v := by
  simp only [change, find?_of_mem lawful.distinct member]

theorem change_of_notMem {key : String} (unknown : key ∉ format.fields.map (·.key)) (v : Value) :
    format.change (key, v) = (fun _ => id) <$> (Slot.unread format.inDeclaration).read v := by
  simp only [change, find?_of_notMem unknown]

/-- The entry of a key that is no field changes nothing; that of a field sets it. -/
theorem change_eq_ok (lawful : format.Lawful) {entry : String × Value}
    {c : Given → Given} (changed : format.change entry = .ok c) :
    c = id ∨ ∃ f ∈ format.fields, f.key = entry.1 ∧ ∃ a, c = f.set a := by
  by_cases known : entry.1 ∈ format.fields.map (·.key)
  · obtain ⟨f, member, key⟩ := List.mem_map.mp known
    have found := change_of_mem lawful member entry.2
    rw [key, changed] at found
    obtain ⟨a, -, set⟩ := map_eq_ok.mp found.symm
    exact .inr ⟨f, member, key, a, set.symm⟩
  · have found := change_of_notMem known entry.2
    rw [changed] at found
    obtain ⟨-, -, same⟩ := map_eq_ok.mp found.symm
    exact .inl same.symm

theorem changes_comm (lawful : format.Lawful) {entry entry' : String × Value}
    (different : entry.1 ≠ entry'.1) {c c' : Given → Given}
    (changed : format.change entry = .ok c) (changed' : format.change entry' = .ok c')
    (given : Given) : c (c' given) = c' (c given) := by
  rcases change_eq_ok lawful changed with rfl | ⟨f, member, key, a, rfl⟩
  · rfl
  rcases change_eq_ok lawful changed' with rfl | ⟨g, member', key', b, rfl⟩
  · rfl
  have distinct : f ≠ g := fun same => different (by rw [← key, ← key', same])
  exact lawful.apart.forall member member' distinct a b given

theorem step_eq_ok {given given' : Given} {entry : String × Value} :
    format.step given entry = .ok given' ↔ ∃ c, format.change entry = .ok c ∧ c given = given' :=
  map_eq_ok

theorem steps_swap (lawful : format.Lawful) {entry entry' : String × Value}
    (different : entry.1 ≠ entry'.1) (given : Given) :
    SucceedsAs (format.step given entry >>= (format.step · entry'))
      (format.step given entry' >>= (format.step · entry)) := by
  intro last found
  obtain ⟨middle, first, second⟩ := bind_eq_ok.mp found
  obtain ⟨c, changed, rfl⟩ := step_eq_ok.mp first
  obtain ⟨c', changed', rfl⟩ := step_eq_ok.mp second
  rw [changes_comm lawful different.symm changed' changed]
  exact bind_eq_ok.mpr ⟨c' given, step_eq_ok.mpr ⟨c', changed', rfl⟩,
    step_eq_ok.mpr ⟨c, changed, rfl⟩⟩

/-! ## Edits of the entries -/

theorem Reads.perm (lawful : format.Lawful) {entries entries' : List (String × Value)}
    (distinct : (entries.map (·.1)).Nodup) (order : entries.Perm entries') {a : α}
    (read : format.Reads entries a) : format.Reads entries' a := by
  obtain ⟨given, run, result⟩ := read
  have independent : entries.Pairwise (·.1 ≠ ·.1) := List.pairwise_map.mp distinct
  have same : SucceedsAs (entries.foldlM format.step format.start)
      (entries'.foldlM format.step format.start) :=
    succeedsAs_foldlM_perm Ne.symm (fun different => steps_swap lawful different) order independent
      format.start
  exact ⟨given, same given run, result⟩

theorem under_of_mem {specs : List FieldSpec} (distinct : (specs.map (·.key)).Nodup)
    {spec : FieldSpec} (member : spec ∈ specs) (inDeclaration : Bool) :
    Slot.under specs inDeclaration spec.key = spec.slot := by
  simp only [Slot.under, find?_of_mem distinct member]

theorem under_of_notMem {specs : List FieldSpec} {key : String}
    (unknown : key ∉ specs.map (·.key)) (inDeclaration : Bool) :
    Slot.under specs inDeclaration key = .unread inDeclaration := by
  simp only [Slot.under, find?_of_notMem unknown]

/-- The slot of the value of a key. -/
def slotOf (format : RecordFormat Given α) (key : String) : Slot :=
  .under format.specs format.inDeclaration key

theorem succeedsAs_change (lawful : format.Lawful) {key : String} {v v' : Value}
    (same : SucceedsAs ((format.slotOf key).read v) ((format.slotOf key).read v')) :
    SucceedsAs (format.change (key, v)) (format.change (key, v')) := by
  by_cases known : key ∈ format.fields.map (·.key)
  · obtain ⟨f, member, rfl⟩ := List.mem_map.mp known
    have slot : format.slotOf f.key = f.slot :=
      under_of_mem (keys_specs ▸ lawful.distinct) (List.mem_map_of_mem member) _
    rw [slot] at same
    rw [change_of_mem lawful member, change_of_mem lawful member]
    exact same.map f.set
  · have slot : format.slotOf key = .unread format.inDeclaration :=
      under_of_notMem (keys_specs ▸ known) _
    rw [slot] at same
    rw [change_of_notMem known, change_of_notMem known]
    exact same.map _

theorem Reads.replace (lawful : format.Lawful) {key : String} {v v' : Value}
    (same : SucceedsAs ((format.slotOf key).read v) ((format.slotOf key).read v'))
    {front back : List (String × Value)} {a : α}
    (read : format.Reads (front ++ (key, v) :: back) a) :
    format.Reads (front ++ (key, v') :: back) a := by
  obtain ⟨given, run, result⟩ := read
  refine ⟨given, succeedsAs_foldlM_replace (fun given => ?_) front back _ given run, result⟩
  exact (succeedsAs_change lawful same).map _

/-- An entry in front that changes nothing at the start can as well be left out. -/
theorem reads_cons_iff {entry : String × Value} {entries : List (String × Value)} {a : α}
    (idle : format.step format.start entry = .ok format.start) :
    format.Reads (entry :: entries) a ↔ format.Reads entries a := by
  unfold Reads
  rw [List.foldlM_cons, idle]
  rfl

theorem step_default (lawful : format.Lawful) {spec : FieldSpec} (member : spec ∈ format.specs)
    {v : Value} (default : spec.default? = some v) :
    format.step format.start (spec.key, v) = .ok format.start := by
  obtain ⟨f, known, rfl⟩ := List.mem_map.mp member
  obtain ⟨a, read, same⟩ := lawful.idle f known v default
  exact step_eq_ok.mpr ⟨f.set a, by rw [change_of_mem lawful known, read]; rfl, same⟩

theorem step_unknown {key : String} (unknown : key ∉ format.specs.map (·.key)) {v : Value}
    (kept : (Slot.unread format.inDeclaration).read v = .ok ()) (given : Given) :
    format.step given (key, v) = .ok given := by
  rw [keys_specs] at unknown
  exact step_eq_ok.mpr ⟨id, by rw [change_of_notMem unknown, kept]; rfl, rfl⟩

end RecordFormat

end ForeignBindings
