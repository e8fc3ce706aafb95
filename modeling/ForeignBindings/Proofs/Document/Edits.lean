import Mathlib.Data.List.Nodup
import Mathlib.Logic.Relation
import ForeignBindings.Proofs.Document.Fields

/-!
# Edits of a declaration tree

Two documents may differ in the order of keys, in keys that no field is called after, and in
whether a default is written out. Each such difference is an edit of one object, at any depth, and
documents with some edits between them hold the same tree (`Edits.reads`). What is added inside a
declaration has to be a value that the formats can spell, which have no number wider than 64 bits.
-/

namespace ForeignBindings
open Document Declaration

/-! ## Wide numbers -/

namespace Document.Value

/-- No number inside a value is wider than 64 bits, as none is that a format can spell. -/
def IsNarrow (v : Value) : Prop := v.firstWide? = none

theorem findLeaf?_list_eq_none_iff {p : Value → Bool} {items : List Value} :
    (list items).findLeaf? p = none ↔ ∀ v ∈ items, v.findLeaf? p = none := by
  rw [findLeaf?]
  induction items with
  | nil => simp [findLeafIn?]
  | cons v items ih =>
      rw [findLeafIn?, List.forall_mem_cons]
      cases v.findLeaf? p with
      | none => simp [ih]
      | some found => simp

theorem findLeaf?_table_eq_none_iff {p : Value → Bool} {entries : List (String × Value)} :
    (table entries).findLeaf? p = none ↔ ∀ entry ∈ entries, entry.2.findLeaf? p = none := by
  rw [findLeaf?]
  induction entries with
  | nil => simp [findLeafAmong?]
  | cons entry entries ih =>
      rw [findLeafAmong?, List.forall_mem_cons]
      cases entry.2.findLeaf? p with
      | none => simp [ih]
      | some found => simp

theorem isNarrow_list_iff {items : List Value} :
    (list items).IsNarrow ↔ ∀ v ∈ items, v.IsNarrow := findLeaf?_list_eq_none_iff

theorem isNarrow_table_iff {entries : List (String × Value)} :
    (table entries).IsNarrow ↔ ∀ entry ∈ entries, entry.2.IsNarrow := findLeaf?_table_eq_none_iff

end Document.Value

theorem Declaration.refuseWide_eq_ok {v : Value} : refuseWide v = .ok () ↔ v.IsNarrow := by
  unfold refuseWide Value.IsNarrow
  cases v.firstWide? with
  | none => simp
  | some found => simp

/-! ## Objects and lists of a document -/

namespace Slot

/-- Whether a value at a slot is looked through for wide numbers. -/
def inDeclaration : Slot → Bool
  | listOf item => item.inDeclaration
  | unread inDeclaration => inDeclaration
  | file => false
  | _ => true

/-- The fields of an object at a slot. -/
def specs? : Slot → List (String × Value) → Option (List FieldSpec)
  | parameter, _ => some Parameter.format.specs
  | field, _ => some Field.format.specs
  | enumerator, _ => some Enumerator.format.specs
  | declaration mayBeNumber, entries => do
    let kind ← (kindOfEntries mayBeNumber entries).toOption
    return (kindFormat mayBeNumber).specs ++ (bodyFormat kind).specs
  | unread _, _ => some []
  | file, _ => some [⟨"declarations", .listOf (.declaration true), some (.list [])⟩]
  | _, _ => none

/-- The slot of an item of a list at a slot. -/
def item? : Slot → List Value → Nat → Option Slot
  | listOf item, _, _ => some item
  | parameter, _, i => (·.slot) <$> Parameter.format.specs[i]?
  | field, _, i => (·.slot) <$> Field.format.specs[i]?
  | enumerator, _, i => (·.slot) <$> Enumerator.format.specs[i]?
  | declaration mayBeNumber, tag :: _, i + 1 => do
    let kind ← (decodeKind mayBeNumber tag).toOption
    return (← (bodyFormat kind).specs[i]?).slot
  | unread inDeclaration, _, _ => some (.unread inDeclaration)
  | _, _, _ => none

end Slot

/-- One difference between two values at a slot. -/
inductive Edit : Slot → Value → Value → Prop
  | reorder {slot : Slot} {specs : List FieldSpec} {entries entries' : List (String × Value)}
      (fields : slot.specs? entries = some specs) (distinct : (entries.map (·.1)).Nodup)
      (order : entries.Perm entries') : Edit slot (.table entries) (.table entries')
  | add {slot : Slot} {specs : List FieldSpec} {entries : List (String × Value)} {key : String}
      {v : Value} (fields : slot.specs? entries = some specs)
      (unknown : key ∉ specs.map (·.key)) (fresh : key ∉ entries.map (·.1))
      (narrow : slot.inDeclaration = true → v.IsNarrow) :
      Edit slot (.table entries) (.table ((key, v) :: entries))
  | writeOut {slot : Slot} {specs : List FieldSpec} {entries : List (String × Value)}
      {spec : FieldSpec} {v : Value} (fields : slot.specs? entries = some specs)
      (member : spec ∈ specs) (default : spec.default? = some v)
      (fresh : spec.key ∉ entries.map (·.1)) :
      Edit slot (.table entries) (.table ((spec.key, v) :: entries))
  | leaveOut {slot : Slot} {specs : List FieldSpec} {entries : List (String × Value)}
      {spec : FieldSpec} {v : Value} (fields : slot.specs? ((spec.key, v) :: entries) = some specs)
      (member : spec ∈ specs) (default : spec.default? = some v)
      (fresh : spec.key ∉ entries.map (·.1)) :
      Edit slot (.table ((spec.key, v) :: entries)) (.table entries)
  | inEntry {slot : Slot} {specs : List FieldSpec} {front back : List (String × Value)}
      {key : String} {v v' : Value}
      (fields : slot.specs? (front ++ (key, v) :: back) = some specs)
      (edit : Edit (.under specs slot.inDeclaration key) v v') :
      Edit slot (.table (front ++ (key, v) :: back)) (.table (front ++ (key, v') :: back))
  | inItem {slot item : Slot} {front back : List Value} {v v' : Value}
      (position : slot.item? (front ++ v :: back) front.length = some item)
      (edit : Edit item v v') :
      Edit slot (.list (front ++ v :: back)) (.list (front ++ v' :: back))

/-- Any number of edits. -/
def Edits (slot : Slot) : Value → Value → Prop := Relation.ReflTransGen (Edit slot)

/-! ## What an edit keeps -/

/-- What is read from the one value is read from the other one, also where it is looked through. -/
structure Agrees (slot : Slot) (v v' : Value) : Prop where
  reads : SucceedsAs (slot.read v) (slot.read v')
  narrow : slot.inDeclaration = true → v.IsNarrow → v'.IsNarrow

/-- A format that reads some fields of an object. -/
structure RecordFormat.IsPart {Given α : Type} (format : RecordFormat Given α)
    (specs : List FieldSpec) (inDeclaration : Bool) : Prop extends format.Lawful where
  known : format.specs ⊆ specs
  looks : format.inDeclaration = true → inDeclaration = true

theorem RecordFormat.Decodes.isPart {Given α : Type} {format : RecordFormat Given α}
    {shape : RecordShape} {decode : Value → Except DocumentError α}
    (decodes : format.Decodes shape decode) (inDeclaration : Bool) :
    format.IsPart format.specs inDeclaration where
  toLawful := decodes.toLawful
  known := List.Subset.refl _
  looks looks := by rw [decodes.ignores] at looks; cases looks

theorem agrees_unread {inDeclaration : Bool} {v v' : Value}
    (narrow : inDeclaration = true → v.IsNarrow → v'.IsNarrow) :
    Agrees (.unread inDeclaration) v v' := by
  refine ⟨?_, narrow⟩
  cases inDeclaration with
  | false => exact .refl _
  | true =>
      intro _ read
      rw [Slot.read, refuseWide_eq_ok] at read ⊢
      exact narrow rfl read

section Table

variable {entries entries' : List (String × Value)}

theorem RecordFormat.Decodes.succeedsAs_table {Given α : Type} {format : RecordFormat Given α}
    {shape : RecordShape} {decode : Value → Except DocumentError α}
    (decodes : format.Decodes shape decode)
    (moves : ∀ a, format.Reads entries a → format.Reads entries' a) :
    SucceedsAs (decode (.table entries)) (decode (.table entries')) := by
  intro a read
  exact decodes.table_iff.mpr (moves a (decodes.table_iff.mp read))

/-- The values of an object agree if each of its formats reads the same from them. -/
theorem agrees_table {slot : Slot} {specs : List FieldSpec}
    (fields : slot.specs? entries = some specs)
    (narrow : slot.inDeclaration = true → (Value.table entries).IsNarrow →
      (Value.table entries').IsNarrow)
    (moves : ∀ {Given α : Type} {format : RecordFormat Given α},
      format.IsPart specs slot.inDeclaration → ∀ a, format.Reads entries a →
        format.Reads entries' a)
    (inFile : slot = .file →
      SucceedsAs (decodeFile (.table entries)) (decodeFile (.table entries'))) :
    Agrees slot (.table entries) (.table entries') := by
  refine ⟨?_, narrow⟩
  cases slot with
  | parameter =>
      cases fields
      exact Parameter.decodes_format.succeedsAs_table
        (moves (Parameter.decodes_format.isPart _))
  | field =>
      cases fields
      exact Field.decodes_format.succeedsAs_table (moves (Field.decodes_format.isPart _))
  | enumerator =>
      cases fields
      exact Enumerator.decodes_format.succeedsAs_table
        (moves (Enumerator.decodes_format.isPart _))
  | declaration mayBeNumber =>
      intro decl read
      rw [Slot.read, decode_table] at read ⊢
      obtain ⟨kind, found, read⟩ := bind_eq_ok.mp read
      have same : specs = (kindFormat mayBeNumber).specs ++ (bodyFormat kind).specs := by
        rw [Slot.specs?, found] at fields
        exact (Option.some.inj fields).symm
      have isKind : (kindFormat mayBeNumber).IsPart specs true :=
        { toLawful := lawful_kindFormat mayBeNumber
          known := same ▸ List.subset_append_left _ _
          looks := fun _ => rfl }
      have isBody : (bodyFormat kind).IsPart specs true :=
        { (decodes_bodyFormat kind).isPart true with
          known := same ▸ List.subset_append_right _ _ }
      refine bind_eq_ok.mpr ⟨kind, ?_, ?_⟩
      · rw [kindOfEntries_eq_ok] at found ⊢
        exact moves isKind kind found
      · exact (decodes_bodyFormat kind).succeedsAs_table (moves isBody) decl read
  | unread inDeclaration => exact (agrees_unread narrow).reads
  | file => exact inFile rfl
  | _ => cases fields

end Table

/-! ## Each edit -/

/-- Whether the value of a field is looked through and its default passes. -/
def FieldSpec.isLookedThrough (spec : FieldSpec) : Bool :=
  spec.slot.inDeclaration && (spec.default?.bind (·.firstWide?)).isNone

structure SoundSpecs (specs : List FieldSpec) : Prop where
  distinct : (specs.map (·.key)).Nodup
  lookedThrough : ∀ spec ∈ specs, spec.isLookedThrough = true

theorem soundSpecs_declaration (mayBeNumber : Bool) (kind : Kind) :
    SoundSpecs ((kindFormat mayBeNumber).specs ++ (bodyFormat kind).specs) := by
  cases kind <;> exact ⟨by cases mayBeNumber <;> decide, by cases mayBeNumber <;> decide⟩

theorem soundSpecs {slot : Slot} {entries : List (String × Value)} {specs : List FieldSpec}
    (fields : slot.specs? entries = some specs) : SoundSpecs specs := by
  cases slot with
  | parameter => cases fields; exact ⟨by decide, by decide⟩
  | field => cases fields; exact ⟨by decide, by decide⟩
  | enumerator => cases fields; exact ⟨by decide, by decide⟩
  | declaration mayBeNumber =>
      rw [Slot.specs?] at fields
      cases found : kindOfEntries mayBeNumber entries with
      | error e => rw [found] at fields; cases fields
      | ok kind =>
          rw [found] at fields
          cases fields
          exact soundSpecs_declaration mayBeNumber kind
  | unread inDeclaration => cases fields; exact ⟨by decide, by decide⟩
  | file => cases fields; exact ⟨by decide, by decide⟩
  | _ => cases fields

theorem SoundSpecs.isNarrow {specs : List FieldSpec} (sound : SoundSpecs specs) {spec : FieldSpec}
    (member : spec ∈ specs) {v : Value} (default : spec.default? = some v) : v.IsNarrow := by
  have passes := sound.lookedThrough spec member
  rw [FieldSpec.isLookedThrough, default, Bool.and_eq_true] at passes
  exact Option.isNone_iff_eq_none.mp passes.2

theorem SoundSpecs.inDeclaration {specs : List FieldSpec} (sound : SoundSpecs specs)
    (key : String) : (Slot.under specs true key).inDeclaration = true := by
  by_cases known : key ∈ specs.map (·.key)
  · obtain ⟨spec, member, rfl⟩ := List.mem_map.mp known
    have passes := sound.lookedThrough spec member
    rw [RecordFormat.under_of_mem sound.distinct member]
    rw [FieldSpec.isLookedThrough, Bool.and_eq_true] at passes
    exact passes.1
  · rw [RecordFormat.under_of_notMem known]
    rfl

theorem read_unread {inDeclaration : Bool} {v : Value}
    (narrow : inDeclaration = true → v.IsNarrow) :
    (Slot.unread inDeclaration).read v = .ok () := by
  cases inDeclaration with
  | false => rfl
  | true => exact refuseWide_eq_ok.mpr (narrow rfl)

namespace RecordFormat.IsPart

variable {Given α : Type} {format : RecordFormat Given α} {specs : List FieldSpec}
  {inDeclaration : Bool} (part : format.IsPart specs inDeclaration)
include part

theorem keys_subset : format.specs.map (·.key) ⊆ specs.map (·.key) := List.map_subset _ part.known

theorem step_add {key : String} (unknown : key ∉ specs.map (·.key)) {v : Value}
    (narrow : inDeclaration = true → v.IsNarrow) :
    format.step format.start (key, v) = .ok format.start :=
  step_unknown (fun member => unknown (part.keys_subset member))
    (read_unread fun looks => narrow (part.looks looks)) _

theorem step_default (sound : SoundSpecs specs) {spec : FieldSpec} (member : spec ∈ specs)
    {v : Value} (default : spec.default? = some v) :
    format.step format.start (spec.key, v) = .ok format.start := by
  by_cases known : spec.key ∈ format.specs.map (·.key)
  · obtain ⟨own, isOwn, key⟩ := List.mem_map.mp known
    have same : own = spec := List.inj_on_of_nodup_map sound.distinct (part.known isOwn) member key
    subst same
    exact RecordFormat.step_default part.toLawful isOwn default
  · exact step_unknown known (read_unread fun _ => sound.isNarrow member default) _

theorem succeedsAs_slotOf (sound : SoundSpecs specs) {key : String} {v v' : Value}
    (agrees : Agrees (.under specs inDeclaration key) v v') :
    SucceedsAs ((format.slotOf key).read v) ((format.slotOf key).read v') := by
  by_cases known : key ∈ format.specs.map (·.key)
  · obtain ⟨own, isOwn, rfl⟩ := List.mem_map.mp known
    have reads := agrees.reads
    rw [under_of_mem sound.distinct (part.known isOwn)] at reads
    rw [slotOf, under_of_mem (keys_specs ▸ part.distinct) isOwn]
    exact reads
  · rw [slotOf, under_of_notMem known]
    cases looks : format.inDeclaration with
    | false => exact .refl _
    | true =>
        have looked := part.looks looks
        subst looked
        intro _ read
        rw [Slot.read, refuseWide_eq_ok] at read ⊢
        exact agrees.narrow (sound.inDeclaration key) read

end RecordFormat.IsPart

/-! ## Objects of a file -/

theorem lookup_eq_some_iff_mem {entries : List (String × Value)}
    (distinct : (entries.map (·.1)).Nodup) {key : String} {v : Value} :
    entries.lookup key = some v ↔ (key, v) ∈ entries := by
  induction entries with
  | nil => simp
  | cons entry entries ih =>
      rw [List.map_cons, List.nodup_cons] at distinct
      rw [List.lookup_cons, List.mem_cons]
      by_cases first : key = entry.1
      · subst first
        have later : (entry.1, v) ∉ entries := fun member =>
          distinct.1 (List.mem_map.mpr ⟨_, member, rfl⟩)
        simp [later, Prod.ext_iff, eq_comm]
      · rw [beq_false_of_ne first]
        simp [ih distinct.2, Prod.ext_iff, first]

theorem lookup_perm {entries entries' : List (String × Value)}
    (distinct : (entries.map (·.1)).Nodup) (order : entries.Perm entries') (key : String) :
    entries.lookup key = entries'.lookup key := by
  have distinct' : (entries'.map (·.1)).Nodup := (order.map _).nodup_iff.mp distinct
  refine Option.ext fun v => ?_
  rw [lookup_eq_some_iff_mem distinct, lookup_eq_some_iff_mem distinct', order.mem_iff]

theorem decodeFile_cons_of_ne {key : String} (different : key ≠ "declarations") (v : Value)
    (entries : List (String × Value)) :
    decodeFile (.table ((key, v) :: entries)) = decodeFile (.table entries) := by
  rw [decodeFile, decodeFile, List.lookup_cons, beq_false_of_ne different.symm]

theorem decodeFile_default {entries entries' : List (String × Value)} {specs : List FieldSpec}
    (fields : Slot.file.specs? entries' = some specs) {spec : FieldSpec} (member : spec ∈ specs)
    {v : Value} (default : spec.default? = some v) (fresh : spec.key ∉ entries.map (·.1)) :
    decodeFile (.table ((spec.key, v) :: entries)) = decodeFile (.table entries) := by
  cases fields
  obtain rfl := List.mem_singleton.mp member
  cases default
  have absent : entries.lookup "declarations" = none := by
    rw [List.lookup_eq_none_iff]
    intro entry member
    have other : "declarations" ≠ entry.1 := fun same =>
      fresh (List.mem_map.mpr ⟨entry, member, same.symm⟩)
    exact bne_iff_ne.mpr other
  rw [decodeFile, decodeFile, absent]
  rfl

theorem succeedsAs_decodeFile_replace {key : String} {v v' : Value}
    (same : key = "declarations" → SucceedsAs (decodeTree true v) (decodeTree true v'))
    (front back : List (String × Value)) :
    SucceedsAs (decodeFile (.table (front ++ (key, v) :: back)))
      (decodeFile (.table (front ++ (key, v') :: back))) := by
  rw [decodeFile, decodeFile, List.lookup_append, List.lookup_append, List.lookup_cons,
    List.lookup_cons]
  cases front.lookup "declarations" with
  | some v => exact .refl _
  | none =>
      by_cases here : key = "declarations"
      · rw [here, beq_self_eq_true]
        exact same here
      · rw [beq_false_of_ne (Ne.symm here)]
        exact .refl _

/-! ## Items of lists -/

theorem zip_replace {keys : List String} {key : String} {front : List Value}
    (position : keys[front.length]? = some key) (back : List Value) :
    ∃ front' back', ∀ v, keys.zip (front ++ v :: back) = front' ++ (key, v) :: back' := by
  induction front generalizing keys with
  | nil =>
      cases keys with
      | nil => cases position
      | cons first keys =>
          cases position
          exact ⟨[], keys.zip back, fun _ => rfl⟩
  | cons item front ih =>
      cases keys with
      | nil => cases position
      | cons first keys =>
          obtain ⟨front', back', zipped⟩ := ih position
          exact ⟨(first, item) :: front', back', fun v => congrArg _ (zipped v)⟩

theorem RecordFormat.Decodes.succeedsAs_list {Given α : Type} {format : RecordFormat Given α}
    {shape : RecordShape} {decode : Value → Except DocumentError α}
    (decodes : format.Decodes shape decode) {front back : List Value} {spec : FieldSpec}
    (position : format.specs[front.length]? = some spec) {v v' : Value}
    (same : SucceedsAs (spec.slot.read v) (spec.slot.read v')) :
    SucceedsAs (decode (.list (front ++ v :: back))) (decode (.list (front ++ v' :: back))) := by
  have slot : format.slotOf spec.key = spec.slot :=
    under_of_mem (keys_specs ▸ decodes.distinct) (List.mem_of_getElem? position) _
  have key : (format.fields.map (·.key))[front.length]? = some spec.key := by
    rw [← keys_specs, List.getElem?_map, position]
    rfl
  obtain ⟨front', back', zipped⟩ := zip_replace key back
  intro a read
  rw [decodes.list_iff, zipped] at read ⊢
  refine ⟨read.1.replace decodes.toLawful (slot ▸ same), ?_⟩
  have fits := read.2
  simpa [RecordShape.checkLength] using fits

section Item

variable {item : Slot} {front back : List Value} {v v' : Value}

theorem isNarrow_replace (narrow : v.IsNarrow → v'.IsNarrow)
    (each : (Value.list (front ++ v :: back)).IsNarrow) :
    (Value.list (front ++ v' :: back)).IsNarrow := by
  simp only [Value.isNarrow_list_iff, List.forall_mem_append, List.forall_mem_cons] at each ⊢
  exact ⟨each.1, narrow each.2.1, each.2.2⟩

theorem Agrees.isNarrow_of_position (agrees : Agrees item v v') {specs : List FieldSpec}
    (sound : ∀ spec ∈ specs, spec.isLookedThrough = true) {i : Nat} {spec : FieldSpec}
    (position : specs[i]? = some spec) (slot : spec.slot = item) (narrow : v.IsNarrow) :
    v'.IsNarrow := by
  have passes := sound spec (List.mem_of_getElem? position)
  rw [FieldSpec.isLookedThrough, Bool.and_eq_true, slot] at passes
  exact agrees.narrow passes.1 narrow

theorem agrees_record {Given : Type} {slot : Slot} {format : RecordFormat Given slot.Result}
    {shape : RecordShape} (decodes : format.Decodes shape slot.read)
    (sound : SoundSpecs format.specs)
    (position : (·.slot) <$> format.specs[front.length]? = some item)
    (agrees : Agrees item v v') :
    Agrees slot (.list (front ++ v :: back)) (.list (front ++ v' :: back)) := by
  obtain ⟨spec, found, rfl⟩ := Option.map_eq_some_iff.mp position
  exact
    { reads := decodes.succeedsAs_list found agrees.reads
      narrow := fun _ =>
        isNarrow_replace (agrees.isNarrow_of_position sound.lookedThrough found rfl) }

/-- Behind the kind of a declaration stand its fields. -/
theorem agrees_part {mayBeNumber : Bool} {tag : Value}
    (position : (Slot.declaration mayBeNumber).item? (tag :: front ++ v :: back)
      (front.length + 1) = some item) (agrees : Agrees item v v') :
    Agrees (.declaration mayBeNumber) (.list (tag :: front ++ v :: back))
      (.list (tag :: front ++ v' :: back)) := by
  obtain ⟨kind, isKind, position⟩ := Option.bind_eq_some_iff.mp position
  obtain ⟨spec, found, slot⟩ := Option.bind_eq_some_iff.mp position
  cases slot
  have sound := fun spec member =>
    (soundSpecs_declaration mayBeNumber kind).lookedThrough spec (List.mem_append_right _ member)
  have narrow := agrees.isNarrow_of_position sound found rfl
  refine ⟨fun decl read => ?_, fun _ => isNarrow_replace narrow⟩
  rw [Slot.read, List.cons_append, decode_list] at read ⊢
  obtain ⟨kind', tagged, read⟩ := bind_eq_ok.mp read
  obtain ⟨_, passes, read⟩ := bind_eq_ok.mp read
  rw [tagged] at isKind
  cases isKind
  rw [refuseWide_eq_ok] at passes
  refine bind_eq_ok.mpr ⟨kind, tagged, bind_eq_ok.mpr ⟨(), ?_, ?_⟩⟩
  · exact refuseWide_eq_ok.mpr (isNarrow_replace narrow passes)
  · exact (decodes_bodyFormat kind).succeedsAs_list found agrees.reads decl read

theorem agrees_item {slot : Slot}
    (position : slot.item? (front ++ v :: back) front.length = some item)
    (agrees : Agrees item v v') :
    Agrees slot (.list (front ++ v :: back)) (.list (front ++ v' :: back)) := by
  cases slot with
  | listOf item =>
      cases position
      exact
        { reads := agrees.reads.mapM_replace front back
          narrow := fun looks => isNarrow_replace (agrees.narrow looks) }
  | parameter =>
      exact agrees_record Parameter.decodes_format (@soundSpecs .parameter [] _ rfl) position agrees
  | field => exact agrees_record Field.decodes_format (@soundSpecs .field [] _ rfl) position agrees
  | enumerator =>
      exact agrees_record Enumerator.decodes_format (@soundSpecs .enumerator [] _ rfl) position
        agrees
  | declaration mayBeNumber =>
      cases front with
      | nil => cases position
      | cons tag front => exact agrees_part position agrees
  | unread inDeclaration =>
      cases position
      exact agrees_unread fun looks => isNarrow_replace (agrees.narrow looks)
  | _ => cases position

end Item

/-! ## All edits -/

theorem Edit.inField {slot : Slot} {specs : List FieldSpec} {front back : List (String × Value)}
    {spec : FieldSpec} {v v' : Value}
    (fields : slot.specs? (front ++ (spec.key, v) :: back) = some specs) (member : spec ∈ specs)
    (edit : Edit spec.slot v v') :
    Edit slot (.table (front ++ (spec.key, v) :: back))
      (.table (front ++ (spec.key, v') :: back)) := by
  refine .inEntry fields ?_
  rw [RecordFormat.under_of_mem (soundSpecs fields).distinct member]
  exact edit

theorem Edit.agrees {slot : Slot} {v v' : Value} (edit : Edit slot v v') :
    Agrees slot v v' := by
  induction edit with
  | reorder fields distinct order =>
      refine agrees_table fields ?_ (fun part _ => .perm part.toLawful distinct order) fun _ => ?_
      · simp only [Value.isNarrow_table_iff]
        exact fun _ each entry member => each entry (order.mem_iff.mpr member)
      · rw [decodeFile, decodeFile, lookup_perm distinct order]
        exact .refl _
  | add fields unknown fresh narrow =>
      refine agrees_table fields ?_ (fun part _ =>
        (RecordFormat.reads_cons_iff (part.step_add unknown narrow)).mpr) fun isFile => ?_
      · simp only [Value.isNarrow_table_iff]
        exact fun looks each => List.forall_mem_cons.mpr ⟨narrow looks, each⟩
      · subst isFile
        cases fields
        rw [decodeFile_cons_of_ne (fun same => unknown (same ▸ .head _))]
        exact .refl _
  | writeOut fields member default fresh =>
      have sound := soundSpecs fields
      refine agrees_table fields ?_ (fun part _ =>
        (RecordFormat.reads_cons_iff (part.step_default sound member default)).mpr) fun isFile => ?_
      · simp only [Value.isNarrow_table_iff]
        exact fun looks each => List.forall_mem_cons.mpr ⟨sound.isNarrow member default, each⟩
      · subst isFile
        rw [decodeFile_default fields member default fresh]
        exact .refl _
  | leaveOut fields member default fresh =>
      have sound := soundSpecs fields
      refine agrees_table fields ?_ (fun part _ =>
        (RecordFormat.reads_cons_iff (part.step_default sound member default)).mp) fun isFile => ?_
      · simp only [Value.isNarrow_table_iff]
        exact fun _ each => (List.forall_mem_cons.mp each).2
      · subst isFile
        rw [decodeFile_default fields member default fresh]
        exact .refl _
  | @inEntry slot specs front back key v v' fields _ ih =>
      have sound := soundSpecs fields
      refine agrees_table fields ?_ (fun part _ =>
        .replace part.toLawful (part.succeedsAs_slotOf sound ih)) fun isFile => ?_
      · simp only [Value.isNarrow_table_iff, List.forall_mem_append, List.forall_mem_cons]
        intro looks each
        rw [looks] at ih
        exact ⟨each.1, ih.narrow (sound.inDeclaration key) each.2.1, each.2.2⟩
      · subst isFile
        cases fields
        refine succeedsAs_decodeFile_replace (fun same => ?_) front back
        subst same
        exact ih.reads
  | inItem position _ ih => exact agrees_item position ih

theorem Edits.reads {slot : Slot} {v v' : Value} (edits : Edits slot v v') :
    SucceedsAs (slot.read v) (slot.read v') := by
  induction edits with
  | refl => exact .refl _
  | tail _ edit ih => exact ih.trans edit.agrees.reads

end ForeignBindings
