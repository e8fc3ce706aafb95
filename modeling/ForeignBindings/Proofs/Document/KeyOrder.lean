import ForeignBindings.Document.Toml
import ForeignBindings.Proofs.Document.TableChanges
import ForeignBindings.Proofs.Outcome

/-!
# The order of keys in a configuration document

Keys may change places with each other: in an inline table at any depth, under one header, and
across headers with the keys that follow each of them. The document then holds the same table
(`Reordered.readLines`), as long as no two of these keys lead to or through the same entry, which
is a fault anyway.
-/

namespace ForeignBindings.Document.Toml

/-! ## Inline tables -/

theorem wellFormed_eq_ok {α : Type} {a? : Option α} {a : α} :
    wellFormed a? = .ok a ↔ a? = some a := by
  cases a? with
  | none => simp [wellFormed]
  | some b => simp [wellFormed]

/-- Reads one entry of an inline table. -/
def assignEntry (table : Entries) (entry : Parts × Sketch) : Except DocumentError Entries := do
  let key ← names entry.1
  let v ← entry.2.value
  let last ← wellFormed key.getLast?
  wellFormed (assign key.dropLast last v table)

theorem assignAll_eq (entries : List (Parts × Sketch)) (table : Entries) :
    assignAll table entries = entries.foldlM assignEntry table := by
  induction entries generalizing table with
  | nil => rfl
  | cons entry entries ih => simp only [assignAll, List.foldlM_cons, assignEntry, bind_assoc, ih]

/-- A key and the value that it is given. -/
structure Gives (entry : Parts × Sketch) (path : List String) (last : String) (v : Value) :
    Prop where
  key : names entry.1 = .ok (path ++ [last])
  value : entry.2.value = .ok v

theorem assignEntry_eq_ok {entry : Parts × Sketch} {table table' : Entries} :
    assignEntry table entry = .ok table' ↔ ∃ path last v, Gives entry path last v ∧
      assign path last v table = some table' := by
  simp only [assignEntry, bind_eq_ok, wellFormed_eq_ok]
  constructor
  · rintro ⟨key, named, v, read, last, isLast, assigned⟩
    have whole : key.dropLast ++ [last] = key := List.dropLast_append_getLast? last isLast
    exact ⟨key.dropLast, last, v, ⟨whole.symm ▸ named, read⟩, assigned⟩
  · rintro ⟨path, last, v, ⟨named, read⟩, assigned⟩
    refine ⟨path ++ [last], named, v, read, last, ?_, ?_⟩
    · exact List.getLast?_concat
    · rwa [List.dropLast_concat]

theorem assignEntry_swap (entry entry' : Parts × Sketch) (table : Entries) :
    SucceedsAs (assignEntry table entry >>= (assignEntry · entry'))
      (assignEntry table entry' >>= (assignEntry · entry)) := by
  intro table₂ run
  obtain ⟨table₁, first, second⟩ := bind_eq_ok.mp run
  obtain ⟨path, last, v, gives, assigned⟩ := assignEntry_eq_ok.mp first
  obtain ⟨path', last', v', gives', assigned'⟩ := assignEntry_eq_ok.mp second
  have both : assign path last v table >>= assign path' last' v' = some table₂ := by
    rw [assigned]
    exact assigned'
  rw [assign_comm] at both
  obtain ⟨table₁', assigned', assigned⟩ := Option.bind_eq_some_iff.mp both
  exact bind_eq_ok.mpr ⟨table₁', assignEntry_eq_ok.mpr ⟨path', last', v', gives', assigned'⟩,
    assignEntry_eq_ok.mpr ⟨path, last, v, gives, assigned⟩⟩

/-- One difference between two values in the order of keys, at any depth. -/
inductive Sketch.Reordered : Sketch → Sketch → Prop
  | swap {front back : List (Parts × Sketch)} {entry entry' : Parts × Sketch} :
      Reordered (.table (front ++ entry :: entry' :: back))
        (.table (front ++ entry' :: entry :: back))
  | inEntry {front back : List (Parts × Sketch)} {key : Parts} {value value' : Sketch}
      (inner : Reordered value value') :
      Reordered (.table (front ++ (key, value) :: back)) (.table (front ++ (key, value') :: back))
  | inItem {front back : List Sketch} {item item' : Sketch} (inner : Reordered item item') :
      Reordered (.list (front ++ item :: back)) (.list (front ++ item' :: back))

theorem values_eq (items : List Sketch) : values items = items.mapM Sketch.value := by
  induction items with
  | nil => rfl
  | cons item items ih => rw [values, List.mapM_cons, ih]

theorem assignEntry_replace {key : Parts} {value value' : Sketch}
    (same : SucceedsAs value.value value'.value) (table : Entries) :
    SucceedsAs (assignEntry table (key, value)) (assignEntry table (key, value')) := by
  intro table' run
  obtain ⟨path, last, v, gives, assigned⟩ := assignEntry_eq_ok.mp run
  exact assignEntry_eq_ok.mpr
    ⟨path, last, v, ⟨gives.key, same v gives.value⟩, assigned⟩

theorem Sketch.Reordered.value {sketch sketch' : Sketch} (reordered : Reordered sketch sketch') :
    SucceedsAs sketch.value sketch'.value := by
  induction reordered with
  | swap =>
      simp only [Sketch.value, assignAll_eq]
      exact (succeedsAs_foldlM_swap (assignEntry_swap _ _) _ _ _).bind fun _ => .refl _
  | inEntry _ ih =>
      simp only [Sketch.value, assignAll_eq]
      exact (succeedsAs_foldlM_replace (assignEntry_replace ih) _ _ _).bind fun _ => .refl _
  | inItem _ ih =>
      simp only [Sketch.value, values_eq]
      exact (ih.mapM_replace _ _).bind fun _ => .refl _

/-! ## Lines -/

namespace Draft

theorem read_entry_eq_ok {key : Parts} {value : Sketch} {draft draft' : Draft} :
    draft.read (.entry key value) = .ok draft' ↔ ∃ path last v, Gives (key, value) path last v ∧
      descend .implied (fun _ => assign path last v) draft.current .header draft.root =
        some draft'.root ∧ draft'.current = draft.current := by
  simp only [read, bind_eq_ok, wellFormed_eq_ok]
  constructor
  · rintro ⟨names, named, v, read, last, isLast, root, assigned, same⟩
    have whole : names.dropLast ++ [last] = names := List.dropLast_append_getLast? last isLast
    cases same
    exact ⟨names.dropLast, last, v, ⟨whole.symm ▸ named, read⟩, assigned, rfl⟩
  · rintro ⟨path, last, v, ⟨named, read⟩, assigned, same⟩
    refine ⟨path ++ [last], named, v, read, last, List.getLast?_concat, draft'.root, ?_, ?_⟩
    · rwa [List.dropLast_concat]
    · rw [← same]
      rfl

theorem read_header_eq_ok {isRepeated : Bool} {key : Parts} {draft draft' : Draft} :
    draft.read (.header isRepeated key) = .ok draft' ↔ ∃ path last,
      names key = .ok (path ++ [last]) ∧
      descend .implied (if isRepeated then openRepeated last else openTable last) path .header
        draft.root = some draft'.root ∧ draft'.current = path ++ [last] := by
  simp only [read, bind_eq_ok, wellFormed_eq_ok]
  constructor
  · rintro ⟨names, named, last, isLast, root, opened, same⟩
    have whole : names.dropLast ++ [last] = names := List.dropLast_append_getLast? last isLast
    cases same
    exact ⟨names.dropLast, last, whole.symm ▸ named, opened, whole.symm⟩
  · rintro ⟨path, last, named, opened, same⟩
    refine ⟨path ++ [last], named, last, List.getLast?_concat, draft'.root, ?_, ?_⟩
    · rwa [List.dropLast_concat]
    · rw [← same]
      rfl

theorem read_entry_swap (entry entry' : Parts × Sketch) (draft : Draft) :
    SucceedsAs (draft.read (.entry entry.1 entry.2) >>= (·.read (.entry entry'.1 entry'.2)))
      (draft.read (.entry entry'.1 entry'.2) >>= (·.read (.entry entry.1 entry.2))) := by
  intro last run
  obtain ⟨middle, first, second⟩ := bind_eq_ok.mp run
  obtain ⟨path, key, v, gives, assigned, same⟩ := read_entry_eq_ok.mp first
  obtain ⟨path', key', v', gives', assigned', same'⟩ := read_entry_eq_ok.mp second
  rw [same] at assigned'
  have both : descend .implied (fun _ => assign path key v) draft.current .header draft.root >>=
      descend .implied (fun _ => assign path' key' v') draft.current .header =
        some last.root := by
    rw [assigned]
    exact assigned'
  rw [descend_comm fun _ entries => assign_comm path path' key key' v v' entries] at both
  obtain ⟨root, assigned', assigned⟩ := Option.bind_eq_some_iff.mp both
  refine bind_eq_ok.mpr ⟨{ draft with root }, ?_, ?_⟩
  · exact read_entry_eq_ok.mpr ⟨path', key', v', gives', assigned', rfl⟩
  · exact read_entry_eq_ok.mpr ⟨path, key, v, gives, assigned, same'.trans same⟩

theorem read_entry_replace {key : Parts} {value value' : Sketch}
    (same : SucceedsAs value.value value'.value) (draft : Draft) :
    SucceedsAs (draft.read (.entry key value)) (draft.read (.entry key value')) := by
  intro draft' run
  obtain ⟨path, last, v, gives, assigned⟩ := read_entry_eq_ok.mp run
  exact read_entry_eq_ok.mpr ⟨path, last, v, ⟨gives.key, same v gives.value⟩, assigned⟩

end Draft

/-! ## Blocks of lines -/

/-- A header with the keys that follow it. -/
structure Block where
  isRepeated : Bool
  key : Parts
  entries : List (Parts × Sketch)

def entryLine (entry : Parts × Sketch) : Line := .entry entry.1 entry.2

/-- The paths of two keys part from each other. -/
def KeysApart (key key' : Parts) : Prop :=
  ∃ path path', names key = .ok path ∧ names key' = .ok path' ∧ Apart path path'

def Block.lines (block : Block) : List Line :=
  .header block.isRepeated block.key :: block.entries.map entryLine

section Runs

variable {common rest : List String} {first : String}

/-- The keys of a block extend a change of one entry, the same one wherever they are read. -/
theorem exists_along_entries {entries : List (Parts × Sketch)}
    {change : Origin → Option Node → Option Node} {start root : Entries} {draft : Draft}
    (before : along common first change start = some root)
    (run : (entries.map entryLine).foldlM Draft.read ⟨root, common ++ first :: rest⟩ =
      .ok draft) :
    ∃ change', along common first change' start = some draft.root ∧
      draft.current = common ++ first :: rest ∧
      ∀ other other', along common first change' other = some other' →
        ∃ middle, along common first change other = some middle ∧
          (entries.map entryLine).foldlM Draft.read ⟨middle, common ++ first :: rest⟩ =
            .ok ⟨other', common ++ first :: rest⟩ := by
  induction entries generalizing change root with
  | nil =>
      cases run
      exact ⟨change, before, rfl, fun other other' changed => ⟨other', changed, rfl⟩⟩
  | cons entry entries ih =>
      rw [List.map_cons, List.foldlM_cons] at run
      obtain ⟨⟨root₁, current⟩, step, run⟩ := bind_eq_ok.mp run
      obtain ⟨path, last, v, gives, assigned, rfl⟩ := Draft.read_entry_eq_ok.mp step
      rw [descend_eq_along] at assigned
      have both := along_bind common first change
        (fun _ => grow .implied (fun _ => assign path last v) rest)
      have before' := (both start).symm
      rw [before] at before'
      obtain ⟨change', after, current, again⟩ := ih (before'.trans assigned) run
      refine ⟨change', after, current, fun other other' changed => ?_⟩
      obtain ⟨middle', changed', run'⟩ := again other other' changed
      rw [← both] at changed'
      obtain ⟨middle, first, second⟩ := Option.bind_eq_some_iff.mp changed'
      refine ⟨middle, first, ?_⟩
      rw [List.map_cons, List.foldlM_cons]
      refine bind_eq_ok.mpr ⟨⟨middle', _⟩, ?_, run'⟩
      exact Draft.read_entry_eq_ok.mpr
        ⟨path, last, v, gives, (congrFun (descend_eq_along ..) _).trans second, rfl⟩

/-- A block changes one entry of the table where its path parts from another one. -/
theorem Block.exists_along {block : Block} (named : names block.key = .ok (common ++ first :: rest))
    {draft draft' : Draft} (run : block.lines.foldlM Draft.read draft = .ok draft') :
    ∃ change, along common first change draft.root = some draft'.root ∧
      draft'.current = common ++ first :: rest ∧
      ∀ other other', along common first change other.root = some other' →
        block.lines.foldlM Draft.read other = .ok ⟨other', common ++ first :: rest⟩ := by
  rw [Block.lines, List.foldlM_cons] at run
  obtain ⟨⟨root, current⟩, opened, run⟩ := bind_eq_ok.mp run
  obtain ⟨path, last, named', opened, whole⟩ := Draft.read_header_eq_ok.mp opened
  have split := Except.ok.inj (named'.symm.trans named)
  rw [open_eq] at opened
  obtain ⟨change, same, -⟩ := exists_descend_eq split .implied (fun _ => openNode block.isRepeated)
    fun _ _ => rfl
  rw [same] at opened
  obtain rfl : current = common ++ first :: rest := whole.trans split
  obtain ⟨change', after, current, again⟩ := exists_along_entries opened run
  refine ⟨change', after, current, fun other other' changed => ?_⟩
  obtain ⟨middle, first, run'⟩ := again other.root other' changed
  rw [Block.lines, List.foldlM_cons]
  refine bind_eq_ok.mpr ⟨⟨middle, common ++ _ :: rest⟩, ?_, run'⟩
  refine Draft.read_header_eq_ok.mpr ⟨path, last, named', ?_, split.symm⟩
  rw [open_eq, same]
  exact first

end Runs

theorem Block.run_swap {block block' : Block} (apart : KeysApart block.key block'.key)
    {draft draft' : Draft}
    (run : (block.lines ++ block'.lines).foldlM Draft.read draft = .ok draft') :
    ∃ current, (block'.lines ++ block.lines).foldlM Draft.read draft =
      .ok ⟨draft'.root, current⟩ := by
  obtain ⟨_, _, named, named', common, first, first', rest, rest', different, rfl, rfl⟩ := apart
  rw [List.foldlM_append] at run
  obtain ⟨middle, run, run'⟩ := bind_eq_ok.mp run
  obtain ⟨change, after, -, again⟩ := Block.exists_along named run
  obtain ⟨change', after', -, again'⟩ := Block.exists_along named' run'
  have both : along common first change draft.root >>= along common first' change' =
      some draft'.root := by
    rw [after]
    exact after'
  rw [along_comm different] at both
  obtain ⟨middle', second, last⟩ := Option.bind_eq_some_iff.mp both
  refine ⟨common ++ first :: rest, ?_⟩
  rw [List.foldlM_append]
  exact bind_eq_ok.mpr ⟨_, again' draft middle' second, again _ _ last⟩

/-! ## Documents -/

/-- One difference between two documents in the order of keys. -/
inductive Reordered : List Line → List Line → Prop
  | swap {front back : List Line} {entry entry' : Parts × Sketch} :
      Reordered (front ++ entryLine entry :: entryLine entry' :: back)
        (front ++ entryLine entry' :: entryLine entry :: back)
  | swapBlocks {front back : List Line} {block block' : Block}
      (apart : KeysApart block.key block'.key)
      (ends : ∀ entry, back.head? ≠ some (entryLine entry)) :
      Reordered (front ++ (block.lines ++ block'.lines ++ back))
        (front ++ (block'.lines ++ block.lines ++ back))
  | inValue {front back : List Line} {key : Parts} {value value' : Sketch}
      (inner : value.Reordered value') :
      Reordered (front ++ .entry key value :: back) (front ++ .entry key value' :: back)

/-- The table that the lines of a document make. -/
def readLines (lines : List Line) : Except DocumentError Value := do
  let draft ← lines.foldlM Draft.read ⟨[], []⟩
  return .table (toEntries draft.root)

theorem read_eq (text : String) :
    read text = wellFormed (outline? text) >>= readLines := rfl

/-- Behind a header it makes no difference which table was open before. -/
theorem run_of_head {lines : List Line} (ends : ∀ entry, lines.head? ≠ some (entryLine entry))
    {root : Entries} {current : List String} (current' : List String) {draft : Draft}
    (run : lines.foldlM Draft.read ⟨root, current⟩ = .ok draft) :
    ∃ draft', lines.foldlM Draft.read ⟨root, current'⟩ = .ok draft' ∧ draft'.root = draft.root := by
  rcases lines with _ | ⟨⟨isRepeated, key⟩ | ⟨key, value⟩, lines⟩
  · cases run
    exact ⟨_, rfl, rfl⟩
  · exact ⟨draft, run, rfl⟩
  · exact absurd rfl (ends (key, value))

theorem Reordered.readLines {lines lines' : List Line} (reordered : Reordered lines lines') :
    SucceedsAs (readLines lines) (readLines lines') := by
  cases reordered with
  | swap =>
      exact (succeedsAs_foldlM_swap (Draft.read_entry_swap _ _) _ _ _).bind fun _ => .refl _
  | inValue inner =>
      exact (succeedsAs_foldlM_replace (Draft.read_entry_replace inner.value) _ _ _).bind
        fun _ => .refl _
  | swapBlocks apart ends =>
      intro v found
      obtain ⟨draft, run, result⟩ := bind_eq_ok.mp found
      rw [List.foldlM_append] at run
      obtain ⟨draft₁, front, run⟩ := bind_eq_ok.mp run
      rw [List.foldlM_append] at run
      obtain ⟨draft₂, blocks, back⟩ := bind_eq_ok.mp run
      obtain ⟨current, swapped⟩ := Block.run_swap apart blocks
      obtain ⟨draft', back, root⟩ := run_of_head ends current back
      refine bind_eq_ok.mpr ⟨draft', ?_, ?_⟩
      · rw [List.foldlM_append]
        refine bind_eq_ok.mpr ⟨draft₁, front, ?_⟩
        rw [List.foldlM_append]
        exact bind_eq_ok.mpr ⟨_, swapped, back⟩
      · rw [root]
        exact result

end ForeignBindings.Document.Toml
