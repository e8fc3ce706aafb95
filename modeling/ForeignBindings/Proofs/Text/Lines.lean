import ForeignBindings.Proofs.Text.Pieces
import ForeignBindings.Text.Lines

/-!
# Reading back written lines

`unlines` ends every line with a line feed, so reading the text back cuts it after every line that
was written (`linesOf_unlines`). A line that holds no line ending itself comes back as it was
(`linesOf_unlines_of_isLine`), and what a line holds behind a line feed comes back as its
`continuations`.
-/

namespace ForeignBindings.Text

/-- Interpolation puts a text in as it is. -/
@[simp] theorem toString_string (s : String) : toString s = s := rfl

/-- A text that is one line: it holds no line feed and no carriage return before its end. -/
def IsLine (l : String) : Prop := '\n' ∉ l.toList ∧ l.toList.getLast? ≠ some '\r'

/-- The lines that a written line is read back as. -/
def relaid (l : String) : List String :=
  (l.toList.splitOnP (· == '\n')).map fun piece => String.ofList (dropReturn piece)

theorem linesOfPieces_append (ps : List (List Char)) {qs : List (List Char)} (nonempty : qs ≠ []) :
    linesOfPieces (ps ++ qs) = ps.map dropReturn ++ linesOfPieces qs := by
  induction ps with
  | nil => rfl
  | cons p ps ih =>
      obtain ⟨q, rest, tail⟩ := List.exists_cons_of_ne_nil
        (List.append_ne_nil_of_right_ne_nil ps nonempty)
      rw [List.cons_append, tail, linesOfPieces, ← tail, ih, List.map_cons, List.cons_append]
      exact List.cons_ne_nil q rest

theorem lines_append_newline (before after : List Char) :
    lines (before ++ '\n' :: after) =
      (before.splitOnP (· == '\n')).map dropReturn ++ lines after := by
  rw [lines, List.splitOnP_append_cons before after (by decide),
    linesOfPieces_append _ (List.splitOnP_ne_nil _ _)]
  rfl

theorem toList_unlines_cons (l : String) (ls : List String) :
    (unlines (l :: ls)).toList = l.toList ++ '\n' :: (unlines ls).toList := by
  simp [unlines]

theorem linesOf_unlines (ls : List String) : linesOf (unlines ls) = ls.flatMap relaid := by
  induction ls with
  | nil => rfl
  | cons l ls ih =>
      rw [linesOf] at ih ⊢
      rw [toList_unlines_cons, lines_append_newline, List.map_append, ih, List.map_map]
      rfl

theorem relaid_of_noFeed {l : String} (noFeed : '\n' ∉ l.toList) :
    relaid l = [String.ofList (dropReturn l.toList)] := by
  have whole : l.toList.splitOnP (· == '\n') = [l.toList] := by
    refine List.splitOnP_eq_singleton fun c member => ?_
    rw [beq_eq_false_iff_ne]
    exact fun same => noFeed (same ▸ member)
  rw [relaid, whole, List.map_singleton]

theorem relaid_of_isLine {l : String} (line : IsLine l) : relaid l = [l] := by
  obtain ⟨noFeed, noReturn⟩ := line
  rw [relaid_of_noFeed noFeed, dropReturn, if_neg noReturn, String.ofList_toList]

theorem linesOf_unlines_of_isLine {ls : List String} (each : ∀ l ∈ ls, IsLine l) :
    linesOf (unlines ls) = ls := by
  rw [linesOf_unlines]
  induction ls with
  | nil => rfl
  | cons l ls ih =>
      rw [List.flatMap_cons, relaid_of_isLine (each l List.mem_cons_self),
        ih fun l' member => each l' (List.mem_cons_of_mem l member)]
      rfl

theorem linesOf_unlines_append (as bs : List String) :
    linesOf (unlines (as ++ bs)) = linesOf (unlines as) ++ linesOf (unlines bs) := by
  rw [linesOf_unlines, linesOf_unlines, linesOf_unlines, List.flatMap_append]

theorem exists_piece_of_mem_linesOfPieces {pieces : List (List Char)} {l : List Char}
    (member : l ∈ linesOfPieces pieces) : ∃ piece ∈ pieces, l ⊆ piece := by
  fun_induction linesOfPieces pieces with
  | case1 => cases member
  | case2 => cases member
  | case3 last => exact ⟨l, member, List.Subset.refl l⟩
  | case4 piece pieces _ ih =>
      rcases List.mem_cons.mp member with rfl | member
      · refine ⟨piece, List.mem_cons_self, ?_⟩
        unfold dropReturn
        split
        · exact List.dropLast_subset piece
        · exact List.Subset.refl piece
      · obtain ⟨found, inPieces, within⟩ := ih member
        exact ⟨found, List.mem_cons_of_mem piece inPieces, within⟩

theorem noFeed_of_mem_linesOf {s l : String} (member : l ∈ linesOf s) : '\n' ∉ l.toList := by
  obtain ⟨cs, inLines, rfl⟩ := List.mem_map.mp member
  obtain ⟨piece, inPieces, within⟩ := exists_piece_of_mem_linesOfPieces inLines
  rw [String.toList_ofList]
  intro feed
  have foreign := eq_false_of_mem_splitOnP inPieces '\n' (within feed)
  cases foreign

/-- A text without characters that end a line. -/
def Unbroken (s : String) : Prop := ∀ c ∈ s.toList, c ≠ '\n' ∧ c ≠ '\r'

theorem unbroken_ofList {cs : List Char} (each : (cs.all fun c => c != '\n' && c != '\r') = true) :
    Unbroken (String.ofList cs) := by
  rw [Unbroken, String.toList_ofList]
  simpa using each

theorem unbroken_append_iff {s t : String} : Unbroken (s ++ t) ↔ Unbroken s ∧ Unbroken t := by
  simp only [Unbroken, String.toList_append, List.forall_mem_append]

theorem Unbroken.append {s t : String} (front : Unbroken s) (back : Unbroken t) :
    Unbroken (s ++ t) :=
  unbroken_append_iff.mpr ⟨front, back⟩

theorem Unbroken.isLine {l : String} (unbroken : Unbroken l) : IsLine l :=
  ⟨fun feed => (unbroken _ feed).1 rfl, fun last => (unbroken _ (List.mem_of_getLast? last)).2 rfl⟩

/-! ## Lines that are continued -/

/-- The lines that a written line is continued on, if it holds line feeds. -/
def continuations (l : String) : List String := (relaid l).tail

theorem dropReturn_append {front : List Char} (plain : '\r' ∉ front) (back : List Char) :
    dropReturn (front ++ back) = front ++ dropReturn back := by
  cases back with
  | nil =>
      have kept : front.getLast? ≠ some '\r' := fun last => plain (List.mem_of_getLast? last)
      rw [List.append_nil, dropReturn, if_neg kept]
      exact (List.append_nil front).symm
  | cons c back =>
      have nonempty : c :: back ≠ [] := List.cons_ne_nil c back
      have last : (front ++ c :: back).getLast? = (c :: back).getLast? := by
        rw [List.getLast?_append, List.getLast?_cons, Option.some_or]
      unfold dropReturn
      rw [last]
      split
      · rw [List.dropLast_append_of_ne_nil nonempty]
      · rfl

/-- A text that breaks no line stays in front of the first line of what follows it. -/
theorem relaid_append {front : String} (plain : Unbroken front) (back : String) :
    relaid (front ++ back) = (relaid back).modifyHead (front ++ ·) := by
  have noFeed : ∀ c ∈ front.toList, (c == '\n') = false :=
    fun c member => beq_eq_false_iff_ne.mpr (plain c member).1
  have noReturn : '\r' ∉ front.toList := fun member => (plain _ member).2 rfl
  unfold relaid
  rw [String.toList_append, splitOnP_append_of_forall noFeed]
  cases back.toList.splitOnP (· == '\n') with
  | nil => rfl
  | cons piece rest =>
      simp only [List.modifyHead_cons, List.map_cons, dropReturn_append noReturn,
        String.ofList_append, String.ofList_toList]

theorem continuations_append {front : String} (plain : Unbroken front) (back : String) :
    continuations (front ++ back) = continuations back := by
  rw [continuations, relaid_append plain]
  cases found : relaid back <;> simp [continuations, found]

theorem relaid_eq_cons (l : String) : ∃ first, relaid l = first :: continuations l := by
  have nonempty : relaid l ≠ [] := by
    intro empty
    exact List.splitOnP_ne_nil _ _ (List.map_eq_nil_iff.mp empty)
  obtain ⟨first, rest, whole⟩ := List.exists_cons_of_ne_nil nonempty
  exact ⟨first, by rw [continuations, whole, List.tail_cons]⟩

theorem continuations_of_unbroken {l : String} (plain : Unbroken l) : continuations l = [] := by
  rw [continuations, relaid_of_isLine plain.isLine, List.tail_cons]

end ForeignBindings.Text
