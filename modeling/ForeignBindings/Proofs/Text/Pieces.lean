import ForeignBindings.Proofs.Text.Blank

/-!
# Pieces between separators

What is put in front of a text or behind it, and is no separator, joins the first or the last of its
pieces (`splitOnP_append_of_forall`, `exists_last_splitOnP`). So the blank characters around a text
make no difference to its trimmed pieces (`map_trim_splitOnP_trim`).
-/

namespace ForeignBindings.Text

/-! ## The first separator -/

theorem takeWhile_bne_append_cons {c : Char} {front : List Char} (absent : c ∉ front)
    (back : List Char) : (front ++ c :: back).takeWhile (· != c) = front := by
  have before : ∀ d ∈ front, (d != c) = true := fun d member =>
    bne_iff_ne.mpr (ne_of_mem_of_not_mem member absent)
  rw [List.takeWhile_append_of_pos before, List.takeWhile_cons_of_neg (by simp), List.append_nil]

theorem dropWhile_bne_append_cons {c : Char} {front : List Char} (absent : c ∉ front)
    (back : List Char) : (front ++ c :: back).dropWhile (· != c) = c :: back := by
  have before : ∀ d ∈ front, (d != c) = true := fun d member =>
    bne_iff_ne.mpr (ne_of_mem_of_not_mem member absent)
  rw [List.dropWhile_append_of_pos before, List.dropWhile_cons_of_neg (by simp)]

theorem takeWhile_not_append_cons {α : Type} {p : α → Bool} {front : List α} {x : α}
    (plain : ∀ y ∈ front, p y = false) (separator : p x = true) (back : List α) :
    (front ++ x :: back).takeWhile (!p ·) = front := by
  rw [List.takeWhile_append_of_pos (by simpa using plain),
    List.takeWhile_cons_of_neg (by simp [separator]), List.append_nil]

/-- What reaches to a separator reaches over the first one. -/
theorem exists_behind_first {α : Type} {p : α → Bool} {run xs front back : List α} {x y : α}
    (plain : ∀ z ∈ run, p z = false) (separator : p y = true)
    (same : run ++ x :: xs = front ++ y :: back) :
    ∃ later, front ++ [y] = run ++ x :: later ∧ xs = later ++ back := by
  rcases List.append_eq_append_iff.mp same with ⟨between, rfl, rest⟩ | ⟨between, rfl, rest⟩
  · cases between with
    | nil =>
        obtain ⟨rfl, rfl⟩ := List.cons.inj rest
        exact ⟨[], by simp, rfl⟩
    | cons first between =>
        obtain ⟨rfl, rfl⟩ := List.cons.inj rest
        exact ⟨between ++ [y], by simp, by simp⟩
  · cases between with
    | nil =>
        obtain ⟨rfl, rfl⟩ := List.cons.inj rest
        exact ⟨[], by simp, rfl⟩
    | cons first between =>
        obtain ⟨rfl, -⟩ := List.cons.inj rest
        rw [plain y (by simp)] at separator
        cases separator

/-- A text is cut at its first separator in one way only. -/
theorem append_cons_inj {c : Char} {front back front' back' : List Char} (absent : c ∉ front)
    (absent' : c ∉ front') (same : front ++ c :: back = front' ++ c :: back') :
    front = front' ∧ back = back' := by
  obtain rfl : front = front' := by
    rw [← takeWhile_bne_append_cons absent back, same, takeWhile_bne_append_cons absent' back']
  exact ⟨rfl, (List.cons.inj (List.append_cancel_left same)).2⟩

/-! ## Pieces -/

theorem eq_false_of_mem_splitOnP {α : Type} {p : α → Bool} {xs piece : List α}
    (member : piece ∈ xs.splitOnP p) : ∀ x ∈ piece, p x = false := by
  induction xs generalizing piece with
  | nil =>
      obtain rfl : piece = [] := by simpa using member
      exact List.forall_mem_nil _
  | cons y ys ih =>
      rw [List.splitOnP_cons_eq_if_modifyHead] at member
      split at member
      · rcases List.mem_cons.mp member with rfl | member
        · exact List.forall_mem_nil _
        · exact ih member
      · rename_i inside
        obtain ⟨first, rest, whole⟩ := List.exists_cons_of_ne_nil (List.splitOnP_ne_nil p ys)
        rw [whole, List.modifyHead_cons] at member
        rcases List.mem_cons.mp member with rfl | member
        · refine List.forall_mem_cons.mpr ⟨Bool.eq_false_iff.mpr inside, ih ?_⟩
          exact whole ▸ List.mem_cons_self
        · exact ih (whole ▸ List.mem_cons_of_mem first member)

theorem splitOnP_append_of_forall {α : Type} {p : α → Bool} {front : List α}
    (plain : ∀ x ∈ front, p x = false) (back : List α) :
    (front ++ back).splitOnP p = (back.splitOnP p).modifyHead (front ++ ·) := by
  induction front with
  | nil =>
      rw [List.nil_append]
      cases back.splitOnP p <;> rfl
  | cons x front ih =>
      obtain ⟨head, tail⟩ := List.forall_mem_cons.mp plain
      rw [List.cons_append, List.splitOnP_cons_eq_if_modifyHead, ih tail, if_neg (by simp [head])]
      cases back.splitOnP p <;> rfl

theorem exists_last_splitOnP {α : Type} {p : α → Bool} {back : List α}
    (plain : ∀ x ∈ back, p x = false) (front : List α) :
    ∃ pieces piece, front.splitOnP p = pieces ++ [piece] ∧
      (front ++ back).splitOnP p = pieces ++ [piece ++ back] := by
  induction front with
  | nil => exact ⟨[], [], rfl, List.splitOnP_eq_singleton plain⟩
  | cons x front ih =>
      obtain ⟨pieces, piece, whole, longer⟩ := ih
      rw [List.cons_append, List.splitOnP_cons_eq_if_modifyHead, whole,
        List.splitOnP_cons_eq_if_modifyHead, longer]
      by_cases separator : p x
      · exact ⟨[] :: pieces, piece, if_pos separator, if_pos separator⟩
      · rw [if_neg separator, if_neg separator]
        cases pieces with
        | nil => exact ⟨[], x :: piece, rfl, rfl⟩
        | cons first pieces => exact ⟨(x :: first) :: pieces, piece, rfl, rfl⟩

/-! ## Trimmed pieces -/

theorem map_trim_splitOnP_blank_append {p : Char → Bool} {blanks : List Char}
    (blank : ∀ c ∈ blanks, isBlank c = true) (plain : ∀ c ∈ blanks, p c = false) (cs : List Char) :
    ((blanks ++ cs).splitOnP p).map trim = (cs.splitOnP p).map trim := by
  rw [splitOnP_append_of_forall plain]
  cases cs.splitOnP p with
  | nil => rfl
  | cons first pieces =>
      rw [List.modifyHead_cons, List.map_cons, trim_blank_append blank, List.map_cons]

theorem map_trim_splitOnP_append_blank {p : Char → Bool} {blanks : List Char}
    (blank : ∀ c ∈ blanks, isBlank c = true) (plain : ∀ c ∈ blanks, p c = false) (cs : List Char) :
    ((cs ++ blanks).splitOnP p).map trim = (cs.splitOnP p).map trim := by
  obtain ⟨pieces, piece, whole, longer⟩ := exists_last_splitOnP plain cs
  rw [longer, whole, List.map_append, List.map_append, List.map_singleton, List.map_singleton,
    trim_append_blank piece blank]

theorem map_trim_splitOnP_trim {p : Char → Bool} (plain : ∀ c, isBlank c = true → p c = false)
    (cs : List Char) : ((trim cs).splitOnP p).map trim = (cs.splitOnP p).map trim := by
  obtain ⟨front, back, blankFront, blankBack, whole⟩ := exists_blanks_trim cs
  have plainFront : ∀ c ∈ front, p c = false := fun c member => plain c (blankFront c member)
  have plainBack : ∀ c ∈ back, p c = false := fun c member => plain c (blankBack c member)
  calc ((trim cs).splitOnP p).map trim
      = ((front ++ trim cs).splitOnP p).map trim :=
        (map_trim_splitOnP_blank_append blankFront plainFront _).symm
    _ = ((front ++ trim cs ++ back).splitOnP p).map trim :=
        (map_trim_splitOnP_append_blank blankBack plainBack _).symm
    _ = (cs.splitOnP p).map trim := by rw [← whole]

end ForeignBindings.Text
