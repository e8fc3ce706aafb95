import Mathlib.Data.List.Basic

/-!
# Computations that may fail

What becomes of a sequence of steps, each of which may fail, when one of them is changed for
another or when they are taken in another order. Only the runs that succeed are compared, since the
first fault ends a run and may then be another one.
-/

namespace ForeignBindings

theorem bind_eq_ok {ε α β : Type} {x : Except ε α} {f : α → Except ε β} {b : β} :
    x >>= f = .ok b ↔ ∃ a, x = .ok a ∧ f a = .ok b := by
  cases x with
  | error e => simp [bind, Except.bind]
  | ok a => simp [bind, Except.bind]

theorem map_eq_ok {ε α β : Type} {x : Except ε α} {f : α → β} {b : β} :
    f <$> x = .ok b ↔ ∃ a, x = .ok a ∧ f a = b := by
  cases x with
  | error e => simp [Functor.map, Except.map]
  | ok a => simp [Functor.map, Except.map]

/-- Where the first computation succeeds, the second one does so with the same result. -/
def SucceedsAs {ε α : Type} (x y : Except ε α) : Prop := ∀ a, x = .ok a → y = .ok a

namespace SucceedsAs

variable {ε α β : Type} {x y : Except ε α}

theorem refl (x : Except ε α) : SucceedsAs x x := fun _ found => found

theorem trans {z : Except ε α} (first : SucceedsAs x y) (second : SucceedsAs y z) :
    SucceedsAs x z :=
  fun a found => second a (first a found)

theorem bind (same : SucceedsAs x y) {f g : α → Except ε β} (next : ∀ a, SucceedsAs (f a) (g a)) :
    SucceedsAs (x >>= f) (y >>= g) := by
  intro b found
  obtain ⟨a, first, rest⟩ := bind_eq_ok.mp found
  exact bind_eq_ok.mpr ⟨a, same a first, next a b rest⟩

theorem map (same : SucceedsAs x y) (f : α → β) : SucceedsAs (f <$> x) (f <$> y) := by
  intro b found
  obtain ⟨a, first, value⟩ := map_eq_ok.mp found
  exact map_eq_ok.mpr ⟨a, same a first, value⟩

theorem mapM_replace {f : α → Except ε β} {x y : α} (same : SucceedsAs (f x) (f y))
    (front back : List α) :
    SucceedsAs ((front ++ x :: back).mapM f) ((front ++ y :: back).mapM f) := by
  rw [List.mapM_append, List.mapM_append, List.mapM_cons, List.mapM_cons]
  refine (refl _).bind fun _ => SucceedsAs.bind ?_ fun _ => refl _
  exact same.bind fun _ => refl _

end SucceedsAs

section Steps

variable {ε σ τ α : Type} {step : σ → α → Except ε σ}

/-- Some steps of a run may be changed for others that do the same wherever they succeed. -/
theorem succeedsAs_foldlM_within (xs ys : List α)
    (same : ∀ s, SucceedsAs (xs.foldlM step s) (ys.foldlM step s)) (front back : List α) (s : σ) :
    SucceedsAs ((front ++ (xs ++ back)).foldlM step s) ((front ++ (ys ++ back)).foldlM step s) := by
  simp only [List.foldlM_append]
  exact (SucceedsAs.refl _).bind fun t => (same t).bind fun _ => .refl _

theorem succeedsAs_foldlM_replace {x y : α} (same : ∀ s, SucceedsAs (step s x) (step s y))
    (front back : List α) (s : σ) :
    SucceedsAs ((front ++ x :: back).foldlM step s) ((front ++ y :: back).foldlM step s) := by
  refine succeedsAs_foldlM_within [x] [y] (fun t => ?_) front back s
  simp only [List.foldlM_cons]
  exact (same t).bind fun _ => .refl _

theorem succeedsAs_foldlM_swap {x y : α}
    (swap : ∀ s, SucceedsAs (step s x >>= (step · y)) (step s y >>= (step · x)))
    (front back : List α) (s : σ) :
    SucceedsAs ((front ++ x :: y :: back).foldlM step s)
      ((front ++ y :: x :: back).foldlM step s) := by
  refine succeedsAs_foldlM_within [x, y] [y, x] (fun t => ?_) front back s
  simpa only [List.foldlM_cons, List.foldlM_nil, bind_pure] using swap t

/-- Steps in another order lead to the same end if any two that are related may be swapped. -/
theorem succeedsAs_foldlM_perm {Independent : α → α → Prop}
    (symmetric : ∀ {x y}, Independent x y → Independent y x)
    (swap : ∀ {x y}, Independent x y → ∀ s,
      SucceedsAs (step s x >>= (step · y)) (step s y >>= (step · x)))
    {xs ys : List α} (order : xs.Perm ys) (independent : xs.Pairwise Independent) (s : σ) :
    SucceedsAs (xs.foldlM step s) (ys.foldlM step s) := by
  induction order generalizing s with
  | nil => exact .refl _
  | cons x _ ih =>
      rw [List.foldlM_cons, List.foldlM_cons]
      exact (SucceedsAs.refl _).bind fun t => ih independent.of_cons t
  | swap x y rest =>
      have apart : Independent y x := (List.pairwise_cons.mp independent).1 x List.mem_cons_self
      exact succeedsAs_foldlM_swap (swap apart) [] rest s
  | trans first _ ihFirst ihSecond =>
      have still := independent.perm first symmetric
      exact (ihFirst independent s).trans (ihSecond still s)

/-- A run seen through a map of its states. -/
theorem map_foldlM {step' : τ → α → Except ε τ} {view : σ → τ}
    (each : ∀ s x, view <$> step s x = step' (view s) x) (xs : List α) (s : σ) :
    view <$> xs.foldlM step s = xs.foldlM step' (view s) := by
  induction xs generalizing s with
  | nil => rfl
  | cons x xs ih =>
      rw [List.foldlM_cons, List.foldlM_cons, ← each, map_bind, bind_map_left]
      exact congrArg _ (funext ih)

end Steps

end ForeignBindings
