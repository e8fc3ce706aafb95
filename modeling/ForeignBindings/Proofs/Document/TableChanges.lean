import Mathlib.Data.List.Nodup
import Mathlib.Data.String.Basic
import ForeignBindings.Document.Toml.Tables

/-!
# Changes of tables under construction

Whatever a key or a header of a configuration document does, it changes one entry of each table
that its path leads through. Two changes whose paths part from each other change different entries
of the table where they part, so it makes no difference which one comes first (`along_comm`,
`assign_comm`).
-/

namespace ForeignBindings.Document

/-! ## Sorted entries -/

section Insert

variable {α : Type}

theorem lookup_insertEntry_self (key : String) (a : α) (entries : List (String × α)) :
    (insertEntry key a entries).lookup key = some a := by
  induction entries with
  | nil => simp [insertEntry]
  | cons entry entries ih =>
      rw [insertEntry]
      split_ifs with before same
      · simp
      · simp
      · rw [List.lookup_cons, beq_false_of_ne same, ih]

theorem lookup_insertEntry_of_ne {key other : String} (different : other ≠ key) (a : α)
    (entries : List (String × α)) :
    (insertEntry key a entries).lookup other = entries.lookup other := by
  induction entries with
  | nil => rw [insertEntry, List.lookup_cons, beq_false_of_ne different]
  | cons entry entries ih =>
      rw [insertEntry]
      split_ifs with before same
      · rw [List.lookup_cons, beq_false_of_ne different]
      · rw [List.lookup_cons, List.lookup_cons, ← same, beq_false_of_ne different]
      · rw [List.lookup_cons, List.lookup_cons, ih]

theorem insertEntry_insertEntry (key : String) (a b : α) (entries : List (String × α)) :
    insertEntry key a (insertEntry key b entries) = insertEntry key a entries := by
  induction entries with
  | nil => simp [insertEntry]
  | cons entry entries ih => grind [insertEntry]

theorem insertEntry_comm {key key' : String} (different : key ≠ key') (a b : α)
    (entries : List (String × α)) :
    insertEntry key a (insertEntry key' b entries) =
      insertEntry key' b (insertEntry key a entries) := by
  induction entries with
  | nil => grind [insertEntry]
  | cons entry entries ih => grind [insertEntry]

end Insert

namespace Toml

/-! ## Changes of one entry -/

/-- Changes what stands under a key, which may be nothing yet. -/
def touch (key : String) (change : Option Node → Option Node) (entries : Entries) :
    Option Entries := do
  return insertEntry key (← change (entries.lookup key)) entries

theorem touch_comm {key key' : String} (different : key ≠ key')
    (change change' : Option Node → Option Node) (entries : Entries) :
    touch key change entries >>= touch key' change' =
      touch key' change' entries >>= touch key change := by
  unfold touch
  cases first : change (entries.lookup key) with
  | none =>
      cases second : change' (entries.lookup key') with
      | none => rfl
      | some node' => simp [lookup_insertEntry_of_ne different, first]
  | some node =>
      cases second : change' (entries.lookup key') with
      | none => simp [lookup_insertEntry_of_ne different.symm, second]
      | some node' =>
          simp [lookup_insertEntry_of_ne different, lookup_insertEntry_of_ne different.symm, first,
            second, insertEntry_comm different]

theorem touch_bind (key : String) (change change' : Option Node → Option Node)
    (entries : Entries) :
    touch key change entries >>= touch key change' =
      touch key (fun node? => change node? >>= fun node => change' (some node)) entries := by
  unfold touch
  cases first : change (entries.lookup key) with
  | none => simp [first]
  | some node => simp [lookup_insertEntry_self, insertEntry_insertEntry, first]

def addNode (node : Node) (node? : Option Node) : Option Node :=
  if node?.isSome then none else some node

theorem addEntry_eq (key : String) (node : Node) (entries : Entries) :
    addEntry key node entries = touch key (addNode node) entries := by
  unfold addEntry touch addNode
  split_ifs with taken
  · rfl
  · rfl

/-- What leading a path through a key makes of what stands there. -/
def grow (made : Origin) (change : Origin → Entries → Option Entries) (path : List String) :
    Option Node → Option Node
  | none => do return .table made (← descend made change path made [])
  | some (.table origin inner) => do
    let origin ← made.claim? origin
    return .table origin (← descend made change path origin inner)
  | some (.tables items) => do
    return .tables (← updateLast (descend made change path .header) items)
  | some (.value _) => none

theorem descend_cons (made : Origin) (change : Origin → Entries → Option Entries) (key : String)
    (path : List String) (origin : Origin) :
    descend made change (key :: path) origin = touch key (grow made change path) := by
  funext entries
  rw [descend, touch]
  cases entries.lookup key with
  | none => simp only [grow, bind_assoc, pure_bind]
  | some node =>
      cases node with
      | value v => rfl
      | table origin inner => simp only [grow, bind_assoc, pure_bind]
      | tables items => simp only [grow, bind_assoc, pure_bind]

theorem descend_append (made : Origin) (change : Origin → Entries → Option Entries)
    (path path' : List String) :
    descend made change (path ++ path') = descend made (descend made change path') path := by
  induction path with
  | nil => rfl
  | cons key path ih =>
      funext origin
      rw [List.cons_append, descend_cons, descend_cons]
      unfold grow
      rw [ih]

theorem descend_append_cons (made : Origin) (change : Origin → Entries → Option Entries)
    (path : List String) (key : String) (rest : List String) :
    descend made change (path ++ key :: rest) =
      descend made (fun _ => touch key (grow made change rest)) path := by
  rw [descend_append]
  congr
  funext origin
  exact descend_cons ..

/-! ## Two changes at the end of one path -/

theorem claim?_self (made : Origin) : made.claim? made = some made := by cases made <;> rfl

theorem claim?_claim? {made origin origin' : Origin} (claimed : made.claim? origin = some origin') :
    made.claim? origin' = some origin' := by
  cases made <;> cases origin <;> cases claimed <;> rfl

theorem updateLast_cons {items : List Entries} (nonempty : items ≠ [])
    (change : Entries → Option Entries) (first : Entries) :
    updateLast change (first :: items) = do return first :: (← updateLast change items) := by
  cases items with
  | nil => exact absurd rfl nonempty
  | cons second rest => rfl

theorem updateLast_ne_nil {change : Entries → Option Entries} {items items' : List Entries}
    (updated : updateLast change items = some items') : items' ≠ [] := by
  rcases items with _ | ⟨first, _ | ⟨second, rest⟩⟩
  · cases updated
  · obtain ⟨_, -, same⟩ := Option.bind_eq_some_iff.mp updated
    cases same
    exact List.cons_ne_nil _ _
  · obtain ⟨_, -, same⟩ := Option.bind_eq_some_iff.mp updated
    cases same
    exact List.cons_ne_nil _ _

theorem updateLast_bind (change change' : Entries → Option Entries) (items : List Entries) :
    updateLast change items >>= updateLast change' =
      updateLast (fun entries => change entries >>= change') items := by
  induction items with
  | nil => rfl
  | cons first rest ih =>
      cases rest with
      | nil => simp [updateLast, Option.bind_assoc]
      | cons second rest =>
          rw [updateLast_cons (List.cons_ne_nil _ _), updateLast_cons (List.cons_ne_nil _ _), ← ih]
          cases updated : updateLast change (second :: rest) with
          | none => rfl
          | some items => exact updateLast_cons (updateLast_ne_nil updated) change' first

theorem descend_bind (made : Origin) (change change' : Origin → Entries → Option Entries)
    (path : List String) (origin : Origin) (entries : Entries) :
    descend made change path origin entries >>= descend made change' path origin =
      descend made (fun origin entries => change origin entries >>= change' origin) path origin
        entries := by
  induction path generalizing origin entries with
  | nil => rfl
  | cons key path ih =>
      rw [descend_cons, descend_cons, descend_cons, touch_bind]
      refine congrArg (touch key · entries) (funext fun node? => ?_)
      cases node? with
      | none =>
          simp only [grow, bind_assoc, pure_bind, claim?_self, ← ih]
          rfl
      | some node =>
          cases node with
          | value v => rfl
          | table origin inner =>
              simp only [grow, bind_assoc, pure_bind, ← ih]
              cases claimed : made.claim? origin with
              | none => rfl
              | some origin' => simp [claim?_claim? claimed]
          | tables items =>
              have fused := updateLast_bind (descend made change path .header)
                (descend made change' path .header) items
              simp only [ih] at fused
              simp only [grow, bind_assoc, pure_bind, ← fused]

theorem descend_comm {change change' : Origin → Entries → Option Entries}
    (comm : ∀ origin entries, change origin entries >>= change' origin =
      change' origin entries >>= change origin)
    (made : Origin) (path : List String) (origin : Origin) (entries : Entries) :
    descend made change path origin entries >>= descend made change' path origin =
      descend made change' path origin entries >>= descend made change path origin := by
  rw [descend_bind, descend_bind]
  simp only [comm]

theorem descend_none (made : Origin) (path : List String) (origin : Origin) (entries : Entries) :
    descend made (fun _ _ => none) path origin entries = none := by
  induction path generalizing origin entries with
  | nil => rfl
  | cons key path ih =>
      have noItem (items : List Entries) :
          updateLast (descend made (fun _ _ => none) path .header) items = none := by
        induction items with
        | nil => rfl
        | cons first rest noItem =>
            cases rest with
            | nil => simp [updateLast, ih]
            | cons second rest =>
                rw [updateLast_cons (List.cons_ne_nil _ _), noItem]
                rfl
      rw [descend_cons, touch]
      rcases entries.lookup key with _ | v | ⟨inner, entries⟩ | items
      · simp [grow, ih]
      · rfl
      · simp [grow, ih]
      · simp [grow, noItem]

/-- Two changes fail if the second one does not take what the first one makes. -/
theorem descend_touch_eq_none {key : String} {change change' : Origin → Option Node → Option Node}
    (clash : ∀ origin node?,
      change origin node? >>= (fun node => change' origin (some node)) = none)
    (made : Origin) (path : List String) (origin : Origin) (entries : Entries) :
    descend made (fun origin => touch key (change origin)) path origin entries >>=
      descend made (fun origin => touch key (change' origin)) path origin = none := by
  rw [descend_bind]
  simp only [touch_bind, clash]
  exact descend_none made path origin entries

/-! ## Keys -/

/-- Neither key leads to or through what the other one leads to. -/
def Apart (key key' : List String) : Prop :=
  ∃ common first first' rest rest', first ≠ first' ∧ key = common ++ first :: rest ∧
    key' = common ++ first' :: rest'

theorem apart_or_isPrefix (key key' : List String) :
    Apart key key' ∨ key <+: key' ∨ key' <+: key := by
  induction key generalizing key' with
  | nil => exact .inr (.inl List.nil_prefix)
  | cons first key ih =>
      cases key' with
      | nil => exact .inr (.inr List.nil_prefix)
      | cons first' key' =>
          by_cases same : first = first'
          · subst same
            rcases ih key' with apart | before | behind
            · obtain ⟨common, second, second', rest, rest', different, rfl, rfl⟩ := apart
              exact .inl ⟨first :: common, second, second', rest, rest', different, rfl, rfl⟩
            · exact .inr (.inl (List.prefix_cons_inj first |>.mpr before))
            · exact .inr (.inr (List.prefix_cons_inj first |>.mpr behind))
          · exact .inl ⟨[], first, first', key, key', same, rfl, rfl⟩

/-- A change at the end of a path is a change of what stands under each part of the path. If it does
not take a value at the end, then it takes none on the way. -/
theorem exists_descend_eq {path common rest : List String} {last first : String}
    (split : path ++ [last] = common ++ first :: rest) (made : Origin)
    (change : Origin → Option Node → Option Node)
    (noValue : ∀ origin v, change origin (some (.value v)) = none) :
    ∃ change' : Origin → Option Node → Option Node,
      descend made (fun origin => touch last (change origin)) path .header =
        descend made (fun origin => touch first (change' origin)) common .header ∧
      ∀ origin v, change' origin (some (.value v)) = none := by
  rcases List.eq_nil_or_concat rest with rfl | ⟨middle, end_, rfl⟩
  · obtain ⟨rfl, rfl⟩ := List.append_singleton_inj.mp split
    exact ⟨change, rfl, noValue⟩
  · rw [List.concat_eq_append, ← List.cons_append, ← List.append_assoc] at split
    obtain ⟨rfl, rfl⟩ := List.append_singleton_inj.mp split
    exact ⟨_, congrFun (descend_append_cons ..) .header, fun _ _ => rfl⟩

/-- What giving a value to a key makes of what stands under its last part. -/
def assignNode (path : List String) (v : Value) (origin : Origin) (node? : Option Node) :
    Option Node :=
  if path ≠ [] ∧ origin ≠ .dotted then none else addNode (.value v) node?

theorem assignNode_some (path : List String) (v : Value) (origin : Origin) (node : Node) :
    assignNode path v origin (some node) = none := by
  unfold assignNode
  split_ifs
  · rfl
  · rfl

theorem eq_of_assignNode {path : List String} {v : Value} {origin : Origin} {node? : Option Node}
    {node : Node} (assigned : assignNode path v origin node? = some node) : node = .value v := by
  unfold assignNode addNode at assigned
  split_ifs at assigned
  exact (Option.some.inj assigned).symm

theorem assign_eq (path : List String) (last : String) (v : Value) :
    assign path last v =
      descend .dotted (fun origin => touch last (assignNode path v origin)) path .header := by
  funext entries
  rw [assign]
  congr
  funext origin table
  rw [addEntry_eq]
  unfold touch assignNode
  split_ifs
  · rfl
  · rfl

theorem assign_comm_of_apart {path path' : List String} {last last' : String}
    (apart : Apart (path ++ [last]) (path' ++ [last'])) (v v' : Value) (entries : Entries) :
    assign path last v entries >>= assign path' last' v' =
      assign path' last' v' entries >>= assign path last v := by
  obtain ⟨common, first, first', rest, rest', different, split, split'⟩ := apart
  obtain ⟨change, same, -⟩ :=
    exists_descend_eq split .dotted (assignNode path v) fun origin _ =>
      assignNode_some path v origin _
  obtain ⟨change', same', -⟩ :=
    exists_descend_eq split' .dotted (assignNode path' v') fun origin _ =>
      assignNode_some path' v' origin _
  rw [assign_eq, assign_eq, same, same']
  exact descend_comm (fun origin => touch_comm different (change origin) (change' origin)) _ _ _ _

theorem assign_bind_of_isPrefix {path path' : List String} {last last' : String}
    (before : path ++ [last] <+: path' ++ [last']) (v v' : Value) (entries : Entries) :
    assign path last v entries >>= assign path' last' v' = none ∧
      assign path' last' v' entries >>= assign path last v = none := by
  obtain ⟨rest, split⟩ := before
  rw [List.append_assoc, List.singleton_append] at split
  obtain ⟨change, same, noValue⟩ :=
    exists_descend_eq split.symm .dotted (assignNode path' v') fun origin _ =>
      assignNode_some path' v' origin _
  rw [assign_eq, assign_eq, same]
  constructor
  · refine descend_touch_eq_none (fun origin node? => ?_) _ _ _ _
    cases assigned : assignNode path v origin node? with
    | none => rfl
    | some node =>
        rw [eq_of_assignNode assigned]
        exact noValue origin v
  · refine descend_touch_eq_none (fun origin node? => ?_) _ _ _ _
    cases change origin node? with
    | none => rfl
    | some node => exact assignNode_some ..

/-- It makes no difference which of two keys gets its value first. -/
theorem assign_comm (path path' : List String) (last last' : String) (v v' : Value)
    (entries : Entries) :
    assign path last v entries >>= assign path' last' v' =
      assign path' last' v' entries >>= assign path last v := by
  rcases apart_or_isPrefix (path ++ [last]) (path' ++ [last']) with apart | before | behind
  · exact assign_comm_of_apart apart v v' entries
  · obtain ⟨first, second⟩ := assign_bind_of_isPrefix before v v' entries
    rw [first, second]
  · obtain ⟨first, second⟩ := assign_bind_of_isPrefix behind v' v entries
    rw [first, second]

/-! ## Changes of a document -/

/-- Changes what stands under a key in the table at the end of a path. -/
def along (path : List String) (key : String) (change : Origin → Option Node → Option Node)
    (root : Entries) : Option Entries :=
  descend .implied (fun origin => touch key (change origin)) path .header root

theorem along_bind (path : List String) (key : String)
    (change change' : Origin → Option Node → Option Node) (root : Entries) :
    along path key change root >>= along path key change' =
      along path key (fun origin node? => change origin node? >>= fun node =>
        change' origin (some node)) root := by
  unfold along
  rw [descend_bind]
  simp only [touch_bind]

theorem along_comm {key key' : String} (different : key ≠ key') (path : List String)
    (change change' : Origin → Option Node → Option Node) (root : Entries) :
    along path key change root >>= along path key' change' =
      along path key' change' root >>= along path key change :=
  descend_comm (fun origin => touch_comm different (change origin) (change' origin)) _ _ _ _

theorem descend_eq_along (change : Origin → Entries → Option Entries) (path : List String)
    (key : String) (rest : List String) :
    descend .implied change (path ++ key :: rest) .header =
      along path key fun _ => grow .implied change rest :=
  congrFun (descend_append_cons ..) .header

/-- What opening a table makes of what stands under its key. -/
def openNode (isRepeated : Bool) : Option Node → Option Node
  | none => some (if isRepeated then .tables [[]] else .table .header [])
  | some (.table .implied inner) => if isRepeated then none else some (.table .header inner)
  | some (.tables items) => if isRepeated then some (.tables (items ++ [[]])) else none
  | some _ => none

theorem open_eq (isRepeated : Bool) (key : String) :
    (if isRepeated then openRepeated key else openTable key) =
      fun _ => touch key (openNode isRepeated) := by
  funext origin entries
  cases isRepeated with
  | false =>
      simp only [Bool.false_eq_true, if_false, openTable, touch]
      rcases entries.lookup key with _ | v | ⟨_ | _ | _, inner⟩ | items
      all_goals rfl
  | true =>
      simp only [if_true, openRepeated, touch]
      rcases entries.lookup key with _ | v | ⟨_ | _ | _, inner⟩ | items
      all_goals rfl

end Toml

end ForeignBindings.Document
