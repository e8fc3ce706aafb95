import Mathlib.Data.List.Nodup
import ForeignBindings.FirstOccurrence

/-!
# Laws of first occurrences

`firstBy key taken xs` walks through `xs` with a growing list of taken keys. The lemmas here say what
comes out of the whole walk:

* `keepsFirst`: the kept entries stand in their old order, each is the first with its key, and what
  is not kept is dropped.
* `mem_map_firstBy`: a key of the list is lost only when it was taken from the beginning.
* `firstBy_eq_self`: nothing is dropped from a list with new and distinct keys.
* `firstBy_append`: the second of two lists finds the keys of the first taken, so one that only
  repeats the first adds nothing (`firstBy_append_of_subset`).
* `filter_firstBy`: what is kept under a key is the first entry with it.
-/

namespace ForeignBindings

variable {α κ : Type}

/-- `x` stands in `xs`, and no entry before it has its key. -/
def IsFirst (key : α → κ) (xs : List α) (x : α) : Prop :=
  ∃ before after, xs = before ++ x :: after ∧ ∀ y ∈ before, key y ≠ key x

/-- `kept` are entries of `xs` that come first with their key, in the order of `xs`, and `dropped`
are the other entries of `xs`. -/
structure KeepsFirst (key : α → κ) (xs kept dropped : List α) : Prop where
  sublist : kept.Sublist xs
  isFirst : ∀ x ∈ kept, IsFirst key xs x
  partition : (kept ++ dropped).Perm xs

theorem IsFirst.cons {key : α → κ} {xs : List α} {x y : α} (first : IsFirst key xs x)
    (fresh : key y ≠ key x) : IsFirst key (y :: xs) x := by
  obtain ⟨before, after, rfl, distinct⟩ := first
  refine ⟨y :: before, after, rfl, ?_⟩
  rintro z (_ | ⟨_, member⟩)
  · exact fresh
  · exact distinct z member

/-- Leaving out all entries of some keys does not change which entries of the other keys come
first. -/
theorem isFirst_filter_iff {key : α → κ} {p : κ → Bool} {xs : List α} {x : α} :
    IsFirst key (xs.filter fun y => p (key y)) x ↔ IsFirst key xs x ∧ p (key x) = true := by
  constructor
  · rintro ⟨before, after, whole, distinct⟩
    obtain ⟨front, back, rfl, rfl, rest⟩ := List.filter_eq_append_iff.mp whole
    obtain ⟨skipped, behind, rfl, out, kept, -⟩ := List.filter_eq_cons_iff.mp rest
    refine ⟨⟨front ++ skipped, behind, by simp, fun y member same => ?_⟩, kept⟩
    rcases List.mem_append.mp member with inFront | inSkipped
    · exact distinct y (List.mem_filter.mpr ⟨inFront, same ▸ kept⟩) same
    · exact out y inSkipped (same ▸ kept)
  · rintro ⟨⟨before, after, rfl, distinct⟩, kept⟩
    refine ⟨before.filter fun y => p (key y), after.filter fun y => p (key y), ?_, ?_⟩
    · have starts := List.filter_cons_of_pos (p := fun y => p (key y)) (l := after) kept
      rw [List.filter_append, starts]
    · exact fun y member => distinct y (List.mem_of_mem_filter member)

/-- Every key of a list has a first entry. -/
theorem exists_isFirst {key : α → κ} {xs : List α} {x : α} (member : x ∈ xs) :
    ∃ y, IsFirst key xs y ∧ key y = key x := by
  induction xs with
  | nil => cases member
  | cons y ys ih =>
      by_cases same : key y = key x
      · exact ⟨y, ⟨[], ys, rfl, List.forall_mem_nil _⟩, same⟩
      · rcases List.mem_cons.mp member with rfl | member
        · exact absurd rfl same
        · obtain ⟨z, first, key⟩ := ih member
          exact ⟨z, first.cons (key ▸ same), key⟩

variable [BEq κ]

theorem firstBy_sublist (key : α → κ) (taken : List κ) (xs : List α) :
    (firstBy key taken xs).Sublist xs := by
  induction xs generalizing taken with
  | nil => exact List.Sublist.refl []
  | cons x xs ih =>
      rw [firstBy_cons]
      split
      · exact (ih _).cons x
      · exact (ih _).cons_cons x

theorem map_fst_markFirst (key : α → κ) (taken : List κ) (xs : List α) :
    (markFirst key taken xs).map (·.1) = xs := by
  induction xs generalizing taken with
  | nil => rfl
  | cons x xs ih => simp only [markFirst, List.map_cons, ih]

theorem markFirst_append (key : α → κ) (taken : List κ) (xs ys : List α) :
    markFirst key taken (xs ++ ys) =
      markFirst key taken xs ++ markFirst key ((xs.map key).reverse ++ taken) ys := by
  induction xs generalizing taken with
  | nil => rfl
  | cons x xs ih => simp [markFirst, ih]

theorem firstBy_append_repeatsBy_perm (key : α → κ) (taken : List κ) (xs : List α) :
    (firstBy key taken xs ++ repeatsBy key taken xs).Perm xs := by
  have marks := (List.filter_append_perm (·.2) (markFirst key taken xs)).map (·.1)
  rwa [List.map_append, map_fst_markFirst] at marks

theorem firstBy_map {β : Type} (key : β → κ) (f : α → β) (taken : List κ) (xs : List α) :
    firstBy key taken (xs.map f) = (firstBy (fun x => key (f x)) taken xs).map f := by
  induction xs generalizing taken with
  | nil => rfl
  | cons x xs ih =>
      rw [List.map_cons, firstBy_cons, firstBy_cons, List.map_append, ih]
      cases taken.contains (key (f x)) <;> rfl

theorem repeatsBy_eq_nil {key : α → κ} {taken : List κ} {xs : List α}
    (same : firstBy key taken xs = xs) : repeatsBy key taken xs = [] := by
  have total := length_firstBy_add_length_repeatsBy key taken xs
  rw [same] at total
  exact List.length_eq_zero_iff.mp (by omega)

variable [LawfulBEq κ]

/-- An entry is marked as the first when no entry before it has its key. -/
theorem mark_eq_true_iff {key : α → κ} {taken : List κ} {xs : List α} {x : α} {mark : Bool}
    {before after : List (α × Bool)}
    (whole : markFirst key taken xs = before ++ (x, mark) :: after) :
    mark = true ↔ key x ∉ taken ∧ ∀ entry ∈ before, key entry.1 ≠ key x := by
  have entries : xs = before.map (·.1) ++ x :: after.map (·.1) := by
    rw [← map_fst_markFirst key taken xs, whole, List.map_append, List.map_cons]
  rw [entries, markFirst_append, markFirst] at whole
  have lengths : (markFirst key taken (before.map (·.1))).length = before.length := by
    rw [length_markFirst, List.length_map]
  obtain ⟨-, rest⟩ := List.append_inj whole lengths
  obtain ⟨marked, -⟩ := List.cons.inj rest
  rw [← (Prod.mk.inj marked).2, Bool.not_eq_true', List.contains_eq_mem, decide_eq_false_iff_not,
    List.mem_append, List.mem_reverse, not_or, and_comm, List.map_map, List.mem_map]
  simp only [not_exists, not_and, Function.comp_apply, ne_eq]

theorem isFirst_of_mem_firstBy {key : α → κ} {taken : List κ} {xs : List α} {x : α}
    (member : x ∈ firstBy key taken xs) : IsFirst key xs x := by
  induction xs generalizing taken with
  | nil => simp [firstBy, markFirst] at member
  | cons y ys ih =>
      rw [firstBy_cons, List.mem_append] at member
      rcases member with head | tail
      · obtain rfl : x = y := by
          split at head <;> simp at head
          exact head
        exact ⟨[], ys, rfl, by simp⟩
      · have fresh := keys_firstBy_not_taken key (key y :: taken) ys x tail
        exact (ih tail).cons fun same => fresh (by simp [same])

theorem mem_firstBy_iff {key : α → κ} {taken : List κ} {xs : List α} {x : α} :
    x ∈ firstBy key taken xs ↔ key x ∉ taken ∧ IsFirst key xs x := by
  constructor
  · exact fun member => ⟨keys_firstBy_not_taken key taken xs x member, isFirst_of_mem_firstBy member⟩
  · rintro ⟨fresh, first⟩
    induction xs generalizing taken with
    | nil =>
        obtain ⟨before, after, whole, -⟩ := first
        simp at whole
    | cons y ys ih =>
        obtain ⟨before, after, whole, distinct⟩ := first
        rw [firstBy_cons, List.mem_append]
        cases before with
        | nil =>
            obtain ⟨rfl, -⟩ := List.cons.inj whole
            exact .inl (by simp [fresh])
        | cons z before =>
            obtain ⟨rfl, rest⟩ := List.cons.inj whole
            have other : key y ≠ key x := distinct y List.mem_cons_self
            refine .inr (ih ?_ ⟨before, after, rest, fun w member => ?_⟩)
            · exact fun old => (List.mem_cons.mp old).elim (fun same => other same.symm) fresh
            · exact distinct w (List.mem_cons_of_mem y member)

theorem keepsFirst (key : α → κ) (taken : List κ) (xs : List α) :
    KeepsFirst key xs (firstBy key taken xs) (repeatsBy key taken xs) where
  sublist := firstBy_sublist key taken xs
  isFirst _ member := isFirst_of_mem_firstBy member
  partition := firstBy_append_repeatsBy_perm key taken xs

theorem mem_map_firstBy {key : α → κ} {taken : List κ} {xs : List α} {k : κ} :
    k ∈ (firstBy key taken xs).map key ↔ k ∈ xs.map key ∧ k ∉ taken := by
  induction xs generalizing taken with
  | nil => simp [firstBy, markFirst]
  | cons x xs ih =>
      rw [firstBy_cons, List.map_append, List.mem_append, ih]
      simp only [List.map_cons, List.mem_cons, not_or]
      by_cases same : k = key x
      · subst same
        by_cases old : key x ∈ taken <;> simp [old]
      · have notHead : k ∉ (if taken.contains (key x) then [] else [x]).map key := by
          split <;> simp [same]
        simp only [notHead, same, false_or, not_false_eq_true, true_and]

theorem firstBy_eq_self {key : α → κ} {taken : List κ} {xs : List α}
    (distinct : (xs.map key).Nodup) (fresh : ∀ x ∈ xs, key x ∉ taken) :
    firstBy key taken xs = xs := by
  induction xs generalizing taken with
  | nil => rfl
  | cons x xs ih =>
      rw [List.map_cons, List.nodup_cons] at distinct
      have new : key x ∉ taken := fresh x List.mem_cons_self
      rw [firstBy_cons, if_neg (by simpa using new), List.singleton_append,
        ih distinct.2 fun y member => ?_]
      intro old
      rcases List.mem_cons.mp old with same | old
      · exact distinct.1 (same ▸ List.mem_map_of_mem member)
      · exact fresh y (List.mem_cons_of_mem x member) old

theorem firstBy_congr_taken {key : α → κ} {taken taken' : List κ}
    (same : ∀ k, k ∈ taken' ↔ k ∈ taken) (xs : List α) :
    firstBy key taken' xs = firstBy key taken xs := by
  induction xs generalizing taken taken' with
  | nil => rfl
  | cons x xs ih =>
      have head : taken'.contains (key x) = taken.contains (key x) := by
        rw [Bool.eq_iff_iff, List.contains_iff_mem, List.contains_iff_mem, same]
      rw [firstBy_cons, firstBy_cons, head, ih fun k => ?_]
      rw [List.mem_cons, List.mem_cons, same]

theorem firstBy_append (key : α → κ) (taken : List κ) (xs ys : List α) :
    firstBy key taken (xs ++ ys) =
      firstBy key taken xs ++ firstBy key (taken ++ xs.map key) ys := by
  induction xs generalizing taken with
  | nil => rw [List.map_nil, List.append_nil]; rfl
  | cons x xs ih =>
      rw [List.cons_append, firstBy_cons, firstBy_cons, ih, List.append_assoc]
      congr 2
      refine firstBy_congr_taken (fun k => ?_) ys
      simp only [List.map_cons, List.mem_append, List.mem_cons]
      tauto

/-- For the second of two lists it does not matter whether the first one is kept whole. -/
theorem firstBy_append_kept (key : α → κ) (taken : List κ) (xs ys : List α) :
    firstBy key taken (xs ++ ys) =
      firstBy key taken xs ++ firstBy key (taken ++ (firstBy key taken xs).map key) ys := by
  rw [firstBy_append]
  congr 1
  refine firstBy_congr_taken (fun k => ?_) ys
  rw [List.mem_append, List.mem_append, mem_map_firstBy]
  tauto

theorem firstBy_eq_nil {key : α → κ} {taken : List κ} {xs : List α}
    (old : ∀ x ∈ xs, key x ∈ taken) : firstBy key taken xs = [] := by
  refine List.eq_nil_iff_forall_not_mem.mpr fun x member => ?_
  exact keys_firstBy_not_taken key taken xs x member
    (old x ((firstBy_sublist key taken xs).subset member))

theorem firstBy_append_of_subset {key : α → κ} {taken taken' : List κ} {xs ys : List α}
    (same : ∀ k, k ∈ taken' ↔ k ∈ taken) (repeated : ys ⊆ xs) :
    firstBy key taken' (xs ++ ys) = firstBy key taken xs := by
  have nothing : firstBy key (taken' ++ xs.map key) ys = [] :=
    firstBy_eq_nil fun y member =>
      List.mem_append_right taken' (List.mem_map_of_mem (repeated member))
  rw [firstBy_append, nothing, List.append_nil, firstBy_congr_taken same]

theorem filter_firstBy (key : α → κ) (xs : List α) (k : κ) :
    (firstBy key [] xs).filter (key · == k) = (xs.find? (key · == k)).toList := by
  suffices general : ∀ taken, (firstBy key taken xs).filter (key · == k) =
      if k ∈ taken then [] else (xs.find? (key · == k)).toList by
    simpa using general []
  induction xs with
  | nil => intro taken; split <;> rfl
  | cons x xs ih =>
      intro taken
      rw [firstBy_cons, List.filter_append, ih, List.find?_cons]
      by_cases same : key x = k
      · subst same
        by_cases old : key x ∈ taken <;> simp [old]
      · have other : (key x == k) = false := beq_eq_false_iff_ne.mpr same
        by_cases old : key x ∈ taken <;> simp [old, other, Ne.symm same]

end ForeignBindings
