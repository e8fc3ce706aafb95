import Mathlib.Data.List.DropRight
import ForeignBindings.Text.Blank

/-!
# Trimmed texts

A trimmed text is a part of the text that was trimmed, and trimming it once more changes nothing.
-/

namespace ForeignBindings.Text

theorem dropWhileEnd_isPrefix (p : Char → Bool) (cs : List Char) : dropWhileEnd p cs <+: cs :=
  List.rdropWhile_prefix p cs

theorem mem_of_mem_trimEnd {cs : List Char} {c : Char} (member : c ∈ trimEnd cs) : c ∈ cs :=
  (dropWhileEnd_isPrefix isBlank cs).subset member

theorem mem_of_mem_trim {cs : List Char} {c : Char} (member : c ∈ trim cs) : c ∈ cs :=
  (List.dropWhile_sublist _).subset (mem_of_mem_trimEnd member)

theorem not_of_head?_dropWhile {p : Char → Bool} {cs : List Char} {c : Char}
    (first : (cs.dropWhile p).head? = some c) : p c = false := by
  have stops := List.head?_dropWhile_not p cs
  rwa [first] at stops

theorem trim_ne_nil {cs : List Char} {c : Char} (member : c ∈ cs) (visible : isBlank c = false) :
    trim cs ≠ [] := by
  intro empty
  have blank : ∀ d ∈ trimStart cs, isBlank d = true := List.rdropWhile_eq_nil_iff.mp empty
  cases start : trimStart cs with
  | nil => simp [List.dropWhile_eq_nil_iff.mp start c member] at visible
  | cons d rest =>
      have first : (trimStart cs).head? = some d := by rw [start, List.head?_cons]
      have stops : isBlank d = false := not_of_head?_dropWhile first
      simp [blank d (start ▸ List.mem_cons_self)] at stops

theorem visible_head?_trim {cs : List Char} {c : Char} (first : (trim cs).head? = some c) :
    isBlank c = false := by
  obtain ⟨rest, whole⟩ := dropWhileEnd_isPrefix isBlank (trimStart cs)
  have kept : (dropWhileEnd isBlank (trimStart cs)).head? = some c := first
  have start : (trimStart cs).head? = some c := by
    rw [← whole, List.head?_append, kept, Option.some_or]
  exact not_of_head?_dropWhile start

theorem visible_getLast?_trim {cs : List Char} {c : Char} (last : (trim cs).getLast? = some c) :
    isBlank c = false := by
  rw [trim, trimEnd, dropWhileEnd, List.getLast?_reverse] at last
  exact not_of_head?_dropWhile last

theorem visible_of_getLast? {cs : List Char} {c : Char} (last : cs.getLast? = some c)
    (visible : isBlank c = false) : ∀ d, cs.getLast? = some d → isBlank d = false := by
  intro d same
  rw [last] at same
  exact Option.some.inj same ▸ visible

theorem not_mem_of_blank {blanks : List Char} (blank : ∀ c ∈ blanks, isBlank c = true) {c : Char}
    (visible : isBlank c = false) : c ∉ blanks := by
  intro member
  rw [blank c member] at visible
  cases visible

theorem trim_trim (cs : List Char) : trim (trim cs) = trim cs :=
  trim_eq_self (fun _ => visible_head?_trim) fun _ => visible_getLast?_trim

theorem count_trimStart (cs : List Char) {c : Char} (visible : isBlank c = false) :
    (trimStart cs).count c = cs.count c := by
  have blank : ∀ d ∈ cs.takeWhile isBlank, isBlank d = true := fun _ => List.mem_takeWhile_imp
  have none : (cs.takeWhile isBlank).count c = 0 :=
    List.count_eq_zero.mpr (not_mem_of_blank blank visible)
  calc (trimStart cs).count c
      = (cs.takeWhile isBlank).count c + (trimStart cs).count c := by rw [none, Nat.zero_add]
    _ = cs.count c := by rw [← List.count_append, trimStart, List.takeWhile_append_dropWhile]

theorem count_trim (cs : List Char) {c : Char} (visible : isBlank c = false) :
    (trim cs).count c = cs.count c := by
  calc (trim cs).count c
      = (trimStart (trimStart cs).reverse).reverse.count c := rfl
    _ = (trimStart cs).count c := by
        rw [List.count_reverse, count_trimStart _ visible, List.count_reverse]
    _ = cs.count c := count_trimStart cs visible

theorem mem_trim_iff {cs : List Char} {c : Char} (visible : isBlank c = false) :
    c ∈ trim cs ↔ c ∈ cs := by
  rw [← List.count_pos_iff, count_trim cs visible, List.count_pos_iff]

theorem mem_dropWhile {p : Char → Bool} {cs : List Char} {c : Char} (member : c ∈ cs)
    (stops : p c = false) : c ∈ cs.dropWhile p := by
  rw [← @List.takeWhile_append_dropWhile _ p cs, List.mem_append] at member
  refine member.resolve_left fun taken => ?_
  rw [List.mem_takeWhile_imp taken] at stops
  cases stops

theorem mem_trimEnd {cs : List Char} {c : Char} (member : c ∈ cs) (visible : isBlank c = false) :
    c ∈ trimEnd cs :=
  List.mem_reverse.mpr (mem_dropWhile (List.mem_reverse.mpr member) visible)

/-- A text that ends with a visible character is trimmed at its start only. -/
theorem trim_eq_trimStart {cs : List Char}
    (visible : ∀ c, cs.getLast? = some c → isBlank c = false) : trim cs = trimStart cs := by
  refine dropWhileEnd_eq_self fun c last => visible c ?_
  obtain ⟨before, whole⟩ : trimStart cs <:+ cs := List.dropWhile_suffix isBlank
  rw [← whole, List.getLast?_append, last, Option.some_or]

theorem trimStart_append_cons (front : List Char) {c : Char} (visible : isBlank c = false)
    (back : List Char) : trimStart (front ++ c :: back) = trimStart front ++ c :: back := by
  have stops : (c :: back).dropWhile isBlank = c :: back :=
    List.dropWhile_cons_of_neg (by simp [visible])
  rw [trimStart, List.dropWhile_append, stops]
  split
  · rename_i blank
    rw [trimStart, List.isEmpty_iff.mp blank, List.nil_append]
  · rfl

theorem trimStart_trim (cs : List Char) : trimStart (trim cs) = trim cs := by
  cases whole : trim cs with
  | nil => rfl
  | cons c rest =>
      have first : (trim cs).head? = some c := by rw [whole, List.head?_cons]
      exact List.dropWhile_cons_of_neg (by simp [visible_head?_trim first])

theorem getLast?_trim {cs : List Char} {c : Char} (last : cs.getLast? = some c)
    (visible : isBlank c = false) : (trim cs).getLast? = some c := by
  have ends : ∀ d, cs.getLast? = some d → isBlank d = false := by
    intro d same
    rw [last] at same
    exact Option.some.inj same ▸ visible
  obtain ⟨front, rfl⟩ := List.getLast?_eq_some_iff.mp last
  rw [trim_eq_trimStart ends, trimStart_append_cons front visible, List.getLast?_concat]

theorem dropWhileEnd_append_of_pos {p : Char → Bool} {back : List Char}
    (dropped : ∀ c ∈ back, p c = true) (cs : List Char) :
    dropWhileEnd p (cs ++ back) = dropWhileEnd p cs := by
  have reversed : ∀ c ∈ back.reverse, p c = true := fun c member =>
    dropped c (List.mem_reverse.mp member)
  rw [dropWhileEnd, List.reverse_append, List.dropWhile_append_of_pos reversed, dropWhileEnd]

theorem trimEnd_append_blank (cs : List Char) {blanks : List Char}
    (blank : ∀ c ∈ blanks, isBlank c = true) : trimEnd (cs ++ blanks) = trimEnd cs :=
  dropWhileEnd_append_of_pos blank cs

theorem trim_blank_append {blanks : List Char} (blank : ∀ c ∈ blanks, isBlank c = true)
    (cs : List Char) : trim (blanks ++ cs) = trim cs := by
  rw [trim, trimStart, List.dropWhile_append_of_pos blank, trim, trimStart]

theorem trim_append_blank (cs : List Char) {blanks : List Char}
    (blank : ∀ c ∈ blanks, isBlank c = true) : trim (cs ++ blanks) = trim cs := by
  rw [trim, trimStart, List.dropWhile_append]
  split
  · rename_i nothing
    have rest : cs.dropWhile isBlank = [] := List.isEmpty_iff.mp nothing
    rw [List.dropWhile_eq_nil_iff.mpr blank, trim, trimStart, rest]
  · rw [trimEnd_append_blank _ blank, trim, trimStart]

theorem exists_dropped_append (p : Char → Bool) (cs : List Char) :
    ∃ back, (∀ c ∈ back, p c = true) ∧ cs = dropWhileEnd p cs ++ back := by
  refine ⟨(cs.reverse.takeWhile p).reverse, fun c member => ?_, ?_⟩
  · exact List.mem_takeWhile_imp (List.mem_reverse.mp member)
  · rw [dropWhileEnd, ← List.reverse_append, List.takeWhile_append_dropWhile, List.reverse_reverse]

/-- Trimming takes blank characters off the ends and nothing else. -/
theorem exists_blanks_trim (cs : List Char) : ∃ front back, (∀ c ∈ front, isBlank c = true) ∧
    (∀ c ∈ back, isBlank c = true) ∧ cs = front ++ trim cs ++ back := by
  obtain ⟨back, blank, ends⟩ := exists_dropped_append isBlank (trimStart cs)
  refine ⟨cs.takeWhile isBlank, back, fun _ => List.mem_takeWhile_imp, blank, ?_⟩
  calc cs = cs.takeWhile isBlank ++ trimStart cs := List.takeWhile_append_dropWhile.symm
    _ = cs.takeWhile isBlank ++ (trim cs ++ back) := congrArg _ ends
    _ = cs.takeWhile isBlank ++ trim cs ++ back := (List.append_assoc _ _ _).symm

end ForeignBindings.Text
