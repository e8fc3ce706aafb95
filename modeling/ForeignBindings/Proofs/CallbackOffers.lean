import ForeignBindings.Proofs.CallbackTable

/-!
# Callbacks offered one after the other

What becomes of a callback depends on the callbacks before it alone (`getElem?_offerAll`), and only
on the first of them with its name: looking a name up finds its first definition, however many
others were turned down since (`find?_insertAll`). So a callback is added when no other had its name
before, and every collision is one with the first (`keepsFirstDefinitions`).
-/

namespace ForeignBindings
open CType

namespace CallbackTable

/-! ## One offer -/

theorem offer_eq_added_iff {table : CallbackTable} {callback : Callback} :
    table.offer callback = .added ↔ table.find? callback.name = none := by
  unfold offer
  split
  · rename_i absent
    exact iff_of_true rfl absent
  · rename_i kept found
    rw [found]
    split <;> exact iff_of_false nofun nofun

/-- A table adds a callback exactly when it says so. -/
theorem definitions_insert_of_offer (table : CallbackTable) (callback : Callback) :
    (table.insert callback).definitions =
      table.definitions ++ if table.offer callback = .added then [callback] else [] := by
  rw [definitions_insert, firstBy_cons]
  congr 1
  by_cases taken : callback.name ∈ table.names
  · have refused : table.offer callback ≠ .added := fun added =>
      find?_eq_none_iff.mp (offer_eq_added_iff.mp added) taken
    rw [if_pos (List.contains_iff_mem.mpr taken), if_neg refused]
    rfl
  · have added := offer_eq_added_iff.mpr (find?_eq_none_iff.mpr taken)
    rw [if_neg fun listed => taken (List.contains_iff_mem.mp listed), if_pos added]
    rfl

end CallbackTable

/-- The warning that a callback deserves after some others: about the first of its name, if that one
has another signature. -/
def collision? (earlier : List Callback) (callback : Callback) : Option Event :=
  (earlier.find? (·.name == callback.name)).bind fun first =>
    if first.signature = callback.signature then none
    else some (.callbackCollision callback.name first.signature callback.signature)

namespace CallbackTable

theorem warnings_offer {table : CallbackTable} {earlier : List Callback} {callback : Callback}
    (found : table.find? callback.name = earlier.find? (·.name == callback.name)) :
    (table.offer callback).warnings callback = (collision? earlier callback).toList := by
  rw [offer, collision?, ← found]
  cases table.find? callback.name with
  | none => rfl
  | some kept =>
      by_cases same : kept.signature = callback.signature <;> simp [same, Offer.warnings]

/-! ## Offers in turn -/

theorem definitions_insertAll_empty (callbacks : List Callback) :
    (empty.insertAll callbacks).definitions = firstBy (·.name) [] callbacks :=
  empty.definitions_insertAll callbacks

theorem find?_insertAll (callbacks : List Callback) (name : String) :
    (empty.insertAll callbacks).find? name = callbacks.find? (·.name == name) := by
  have kept := congrArg List.head? (filter_firstBy Callback.name callbacks name)
  rw [find?_eq, definitions_insertAll_empty, ← List.head?_filter, kept, Option.head?_toList]

theorem index_insertAll {callbacks : List Callback} {name : String} {place : Nat} :
    (empty.insertAll callbacks).index[name]? = some place ↔
      ∃ c, IsFirst (·.name) callbacks c ∧ c.name = name ∧
        (empty.insertAll callbacks).definitions[place]? = some c := by
  rw [(empty.insertAll callbacks).indexed, Option.map_eq_some_iff]
  constructor
  · rintro ⟨c, stands, named⟩
    have member := List.mem_of_getElem? stands
    rw [definitions_insertAll_empty] at member
    exact ⟨c, isFirst_of_mem_firstBy member, named, stands⟩
  · rintro ⟨c, -, named, stands⟩
    exact ⟨c, stands, named⟩

theorem getElem?_offerAll (table : CallbackTable) (callbacks : List Callback) (i : Nat) :
    (table.offerAll callbacks)[i]? =
      callbacks[i]?.map fun c => (c, (table.insertAll (callbacks.take i)).offer c) := by
  induction callbacks generalizing table i with
  | nil => rfl
  | cons callback callbacks ih =>
      cases i with
      | zero => rfl
      | succ i => exact ih (table.insert callback) i

theorem map_fst_offerAll (table : CallbackTable) (callbacks : List Callback) :
    (table.offerAll callbacks).map (·.1) = callbacks := by
  refine List.ext_getElem? fun i => ?_
  rw [List.getElem?_map, getElem?_offerAll, Option.map_map]
  exact Option.map_id'

/-- An answer is given by the table of the callbacks before. -/
theorem offer_of_getElem?_offerAll {table : CallbackTable} {callbacks : List Callback} {i : Nat}
    {callback : Callback} {offer : Offer}
    (answer : (table.offerAll callbacks)[i]? = some (callback, offer)) :
    (table.insertAll (callbacks.take i)).offer callback = offer := by
  rw [getElem?_offerAll, Option.map_eq_some_iff] at answer
  obtain ⟨c, -, same⟩ := answer
  obtain ⟨rfl, offered⟩ := Prod.mk.inj same
  exact offered

theorem definitions_insertAll_of_offers (table : CallbackTable) (callbacks : List Callback) :
    (table.insertAll callbacks).definitions = table.definitions ++
      ((table.offerAll callbacks).filter (·.2 = .added)).map (·.1) := by
  induction callbacks generalizing table with
  | nil => exact (List.append_nil _).symm
  | cons callback callbacks ih =>
      rw [insertAll, List.foldl_cons, ← insertAll, ih, definitions_insert_of_offer, offerAll,
        List.append_assoc, List.filter_cons]
      by_cases added : table.offer callback = .added <;> simp [added]

end CallbackTable

/-! ## The statement -/

/-- What a table makes of callbacks that are offered to it one after the other: the answer to each
of them and the warnings that go with it, and in the end the definitions and their index. -/
structure KeepsFirstDefinitions (callbacks : List Callback) (offers : List (Callback × Offer))
    (table : CallbackTable) : Prop where
  answered : offers.map (·.1) = callbacks
  added : ∀ i callback offer, offers[i]? = some (callback, offer) →
    (offer = .added ↔ ∀ earlier ∈ callbacks.take i, earlier.name ≠ callback.name)
  warned : ∀ i callback offer, offers[i]? = some (callback, offer) →
    offer.warnings callback = (collision? (callbacks.take i) callback).toList
  kept : table.definitions = (offers.filter (·.2 = .added)).map (·.1)
  firstWins : table.definitions = firstBy (·.name) [] callbacks
  isFirst : ∀ c, c ∈ table.definitions ↔ IsFirst (·.name) callbacks c
  distinct : (table.definitions.map (·.name)).Nodup
  indexed : ∀ name place, table.index[name]? = some place ↔
    ∃ c, IsFirst (·.name) callbacks c ∧ c.name = name ∧ table.definitions[place]? = some c

theorem keepsFirstDefinitions (callbacks : List Callback) :
    KeepsFirstDefinitions callbacks (CallbackTable.empty.offerAll callbacks)
      (CallbackTable.empty.insertAll callbacks) := by
  have definitions := CallbackTable.definitions_insertAll_empty callbacks
  have known (i : Nat) (name : String) := CallbackTable.find?_insertAll (callbacks.take i) name
  refine
    { answered := CallbackTable.map_fst_offerAll _ callbacks
      added := fun i callback offer answer => ?_
      warned := fun i callback offer answer => ?_
      kept := CallbackTable.empty.definitions_insertAll_of_offers callbacks
      firstWins := definitions
      isFirst := fun c => ?_
      distinct := ?_
      indexed := fun _ _ => CallbackTable.index_insertAll }
  · rw [← CallbackTable.offer_of_getElem?_offerAll answer, CallbackTable.offer_eq_added_iff, known,
      List.find?_eq_none]
    simp only [beq_iff_eq, ne_eq]
  · rw [← CallbackTable.offer_of_getElem?_offerAll answer]
    exact CallbackTable.warnings_offer (known i callback.name)
  · rw [definitions, mem_firstBy_iff]
    exact and_iff_right List.not_mem_nil
  · rw [definitions]
    exact keys_nodup_firstBy _ _ _

/-- The third callback collides with the first, not with the second, which was turned down. -/
example :
    let callbacks : List Callback := [⟨"C", ⟨"void", []⟩, none⟩, ⟨"C", ⟨"int", []⟩, none⟩,
      ⟨"C", ⟨"int", []⟩, none⟩]
    (CallbackTable.empty.offerAll callbacks).map (·.2) =
      [.added, .collides ⟨"void", []⟩, .collides ⟨"void", []⟩] := by
  decide

end ForeignBindings
