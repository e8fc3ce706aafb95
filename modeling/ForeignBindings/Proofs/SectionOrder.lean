import ForeignBindings.Pipeline

/-!
# The order of sections

Sections go to the file system in the order of their numbers, each inserted behind those of its own
number. So sections of one number stay as they stand (`isStableOrder_byOrder`).
-/

namespace ForeignBindings.Pipeline

/-- The sections, sorted by their order; those of equal order stay as they stand. -/
structure IsStableOrder (sections sorted : List Section) : Prop where
  perm : sorted.Perm sections
  ascending : sorted.Pairwise (·.order ≤ ·.order)
  stable : ∀ order, sorted.filter (·.order = order) = sections.filter (·.order = order)

theorem insertByOrder_perm (s : Section) (sorted : List Section) :
    (insertByOrder s sorted).Perm (s :: sorted) := by
  induction sorted with
  | nil => exact .refl _
  | cons first rest ih =>
      unfold insertByOrder
      split
      · exact .refl _
      · exact (ih.cons first).trans (.swap s first rest)

theorem ascending_insertByOrder {s : Section} {sorted : List Section}
    (ascending : sorted.Pairwise (·.order ≤ ·.order)) :
    (insertByOrder s sorted).Pairwise (·.order ≤ ·.order) := by
  induction sorted with
  | nil => exact List.pairwise_singleton _ s
  | cons first rest ih =>
      obtain ⟨least, ascendingRest⟩ := List.pairwise_cons.mp ascending
      unfold insertByOrder
      split
      · rename_i smaller
        refine List.pairwise_cons.mpr ⟨List.forall_mem_cons.mpr ⟨?_, fun t member => ?_⟩, ascending⟩
        · exact Nat.le_of_lt smaller
        · exact Nat.le_trans (Nat.le_of_lt smaller) (least t member)
      · rename_i notSmaller
        refine List.pairwise_cons.mpr ⟨fun t member => ?_, ih ascendingRest⟩
        rcases List.mem_cons.mp ((insertByOrder_perm s rest).mem_iff.mp member) with rfl | member
        · exact Nat.le_of_not_lt notSmaller
        · exact least t member

/-- A section goes behind the others of its order. -/
theorem filter_insertByOrder {s : Section} {sorted : List Section}
    (ascending : sorted.Pairwise (·.order ≤ ·.order)) (order : Nat) :
    (insertByOrder s sorted).filter (·.order = order) =
      sorted.filter (·.order = order) ++ [s].filter (·.order = order) := by
  induction sorted with
  | nil => rfl
  | cons first rest ih =>
      obtain ⟨least, ascendingRest⟩ := List.pairwise_cons.mp ascending
      unfold insertByOrder
      split
      · rename_i smaller
        by_cases same : s.order = order
        · have none : (first :: rest).filter (·.order = order) = [] := by
            refine List.filter_eq_nil_iff.mpr fun t member => ?_
            have larger : s.order < t.order := by
              rcases List.mem_cons.mp member with rfl | member
              · exact smaller
              · exact Nat.lt_of_lt_of_le smaller (least t member)
            simp only [decide_eq_true_eq]
            omega
          rw [List.filter_cons, none]
          simp [same]
        · simp [List.filter_cons, same]
      · rw [List.filter_cons, List.filter_cons, ih ascendingRest]
        split <;> rfl

theorem isStableOrder_byOrder (sections : List Section) :
    IsStableOrder sections (byOrder sections) := by
  -- The sections that were inserted so far stand in `before`.
  suffices general : ∀ sorted before, IsStableOrder before sorted →
      IsStableOrder (before ++ sections)
        (sections.foldl (fun sorted s => insertByOrder s sorted) sorted) by
    exact general [] [] ⟨.refl _, .nil, fun _ => rfl⟩
  induction sections with
  | nil =>
      intro sorted before stable
      rwa [List.append_nil]
  | cons s sections ih =>
      intro sorted before stable
      have next : IsStableOrder (before ++ [s]) (insertByOrder s sorted) := by
        refine ⟨?_, ascending_insertByOrder stable.ascending, fun order => ?_⟩
        · refine (insertByOrder_perm s sorted).trans ((stable.perm.cons s).trans ?_)
          exact (List.perm_append_singleton s before).symm
        · rw [filter_insertByOrder stable.ascending, stable.stable, List.filter_append]
      have whole := ih _ _ next
      rwa [List.append_assoc] at whole

theorem mem_byOrder {s : Section} {sections : List Section} :
    s ∈ byOrder sections ↔ s ∈ sections :=
  (isStableOrder_byOrder sections).perm.mem_iff

end ForeignBindings.Pipeline
