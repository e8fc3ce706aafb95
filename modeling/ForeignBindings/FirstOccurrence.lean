/-!
# First occurrences

Where several entries claim one key, the first one wins. `markFirst` tells for every entry of a list
whether it is the first with its key, and the kept and dropped entries are read off the marks.

* `keys_nodup_firstBy`: the keys of the kept entries are distinct.
* `length_firstBy_add_length_repeatsBy`: every entry is kept or dropped.
-/

namespace ForeignBindings

variable {α κ : Type} [BEq κ]

/-- Marks every entry of a list with whether its key is new: not in `taken` and not met before. -/
def markFirst (key : α → κ) : List κ → List α → List (α × Bool)
  | _, [] => []
  | taken, x :: xs => (x, !taken.contains (key x)) :: markFirst key (key x :: taken) xs

/-- The entries with a new key. -/
def firstBy (key : α → κ) (taken : List κ) (xs : List α) : List α :=
  ((markFirst key taken xs).filter (·.2)).map (·.1)

/-- The entries whose key was taken already. -/
def repeatsBy (key : α → κ) (taken : List κ) (xs : List α) : List α :=
  ((markFirst key taken xs).filter (!·.2)).map (·.1)

theorem length_markFirst (key : α → κ) (taken : List κ) (xs : List α) :
    (markFirst key taken xs).length = xs.length := by
  induction xs generalizing taken with
  | nil => rfl
  | cons x xs ih => simp [markFirst, ih]

theorem firstBy_cons (key : α → κ) (taken : List κ) (x : α) (xs : List α) :
    firstBy key taken (x :: xs) =
      (if taken.contains (key x) then [] else [x]) ++ firstBy key (key x :: taken) xs := by
  cases h : taken.contains (key x) <;> simp [firstBy, markFirst, h]

theorem repeatsBy_cons (key : α → κ) (taken : List κ) (x : α) (xs : List α) :
    repeatsBy key taken (x :: xs) =
      (if taken.contains (key x) then [x] else []) ++ repeatsBy key (key x :: taken) xs := by
  cases h : taken.contains (key x) <;> simp [repeatsBy, markFirst, h]

theorem length_firstBy_add_length_repeatsBy (key : α → κ) (taken : List κ) (xs : List α) :
    (firstBy key taken xs).length + (repeatsBy key taken xs).length = xs.length := by
  induction xs generalizing taken with
  | nil => rfl
  | cons x xs ih =>
    have := ih (key x :: taken)
    rw [firstBy_cons, repeatsBy_cons]
    split <;> simp <;> omega

theorem keys_firstBy_not_taken [LawfulBEq κ] (key : α → κ) (taken : List κ) (xs : List α) :
    ∀ x ∈ firstBy key taken xs, key x ∉ taken := by
  induction xs generalizing taken with
  | nil => simp [firstBy, markFirst]
  | cons y ys ih =>
    intro x hx
    rw [firstBy_cons, List.mem_append] at hx
    rcases hx with hx | hx
    · split at hx
      · simp at hx
      · rename_i h
        simp only [List.mem_singleton] at hx
        subst hx
        simpa using h
    · exact fun hmem => ih (key y :: taken) x hx (List.mem_cons_of_mem _ hmem)

theorem keys_nodup_firstBy [LawfulBEq κ] (key : α → κ) (taken : List κ) (xs : List α) :
    ((firstBy key taken xs).map key).Nodup := by
  induction xs generalizing taken with
  | nil => simp [firstBy, markFirst]
  | cons y ys ih =>
    rw [firstBy_cons]
    split
    · simpa using ih (key y :: taken)
    · simp only [List.singleton_append, List.map_cons, List.nodup_cons]
      refine ⟨fun hmem => ?_, ih (key y :: taken)⟩
      obtain ⟨x, hx, hkey⟩ := List.mem_map.mp hmem
      exact keys_firstBy_not_taken key (key y :: taken) ys x hx (by simp [hkey])

end ForeignBindings
