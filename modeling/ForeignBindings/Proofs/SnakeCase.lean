import Mathlib.Data.List.Chain
import ForeignBindings.Proofs.Identifier
import ForeignBindings.Proofs.Text.Blank

/-!
# Snake case as a canonical form

Whatever separates the words of a name, its snake case separates them by single underscores, and
keeps all letters and digits in small (`spellsInSnakeCase`). Such texts are the ones that snake case
leaves as they are (`snakeCase_eq_self_iff`).
-/

namespace ForeignBindings.Identifier
open ForeignBindings.Text

/-- The characters of names in snake case. -/
def IsSnakeChar (c : Char) : Prop := c.isLower = true ∨ c.isDigit = true ∨ c = '_'

instance : DecidablePred IsSnakeChar := fun _ => inferInstanceAs (Decidable (_ ∨ _))

/-- Small letters and digits with single underscores between them. -/
structure IsSnake (cs : List Char) : Prop where
  chars : ∀ c ∈ cs, IsSnakeChar c
  first : cs.head? ≠ some '_'
  last : cs.getLast? ≠ some '_'
  single : ¬['_', '_'] <:+: cs

/-! ## What is written -/

/-- Two characters of which one at most is an underscore. -/
def Separate (a b : Char) : Prop := ¬(a = '_' ∧ b = '_')

theorem isSnakeChar_toLower {c : Char} (alphanumeric : c.isAlphanum = true) :
    IsSnakeChar c.toLower :=
  forall_isWordChar (P := fun c => c.isAlphanum = true → IsSnakeChar c.toLower) (by decide)
    (isWordChar_of_isAlphanum alphanumeric) alphanumeric

theorem isSnakeChar_snakeAfter {prev : Option Char} {inWord : Bool} {cs : List Char} :
    ∀ c ∈ snakeAfter prev inWord cs, IsSnakeChar c := by
  have separator : ∀ {b : Bool}, ∀ c ∈ (if b then ['_'] else []), IsSnakeChar c := by
    intro b c member
    obtain ⟨-, rfl⟩ : b = true ∧ c = '_' := by simpa using member
    decide
  induction cs generalizing prev inWord with
  | nil => exact List.forall_mem_nil _
  | cons d cs ih =>
      unfold snakeAfter
      split
      · exact List.forall_mem_append.mpr ⟨separator, ih⟩
      · rename_i alphanumeric
        have lower : IsSnakeChar d.toLower := isSnakeChar_toLower (by simpa using alphanumeric)
        exact List.forall_mem_append.mpr ⟨separator, List.forall_mem_cons.mpr ⟨lower, ih⟩⟩

/-- An underscore is only written inside a word, and the rest that follows it starts outside one. -/
theorem separate_snakeAfter (prev : Option Char) (inWord : Bool) (cs : List Char) :
    (snakeAfter prev inWord cs).IsChain Separate ∧
      (inWord = false → (snakeAfter prev inWord cs).head? ≠ some '_') := by
  induction cs generalizing prev inWord with
  | nil => exact ⟨.nil, fun _ found => Option.some_ne_none _ found.symm⟩
  | cons c cs ih =>
      unfold snakeAfter
      split
      · obtain ⟨chain, first⟩ := ih (some c) false
        have free : ∀ d ∈ (snakeAfter (some c) false cs).head?, Separate '_' d := by
          rintro d starts ⟨-, rfl⟩
          exact first rfl starts
        cases inWord with
        | false => exact ⟨chain, fun _ => first rfl⟩
        | true => exact ⟨List.isChain_cons.mpr ⟨free, chain⟩, Bool.noConfusion⟩
      · rename_i alphanumeric
        have letter : c.toLower ≠ '_' := toLower_ne_underscore (by simpa using alphanumeric)
        have word : (c.toLower :: snakeAfter (some c) true cs).IsChain Separate :=
          List.isChain_cons.mpr ⟨fun _ _ both => letter both.1, (ih (some c) true).1⟩
        split
        · rename_i starts
          refine ⟨List.isChain_cons_cons.mpr ⟨fun both => letter both.2, word⟩, ?_⟩
          rintro rfl
          simp at starts
        · exact ⟨word, fun _ first => letter (Option.some.inj first)⟩

theorem filter_snakeAfter (prev : Option Char) (inWord : Bool) (cs : List Char) :
    (snakeAfter prev inWord cs).filter (· != '_') =
      (cs.filter Char.isAlphanum).map Char.toLower := by
  have separator : ∀ b : Bool, (if b then ['_'] else []).filter (· != '_') = [] := by decide
  induction cs generalizing prev inWord with
  | nil => rfl
  | cons c cs ih =>
      unfold snakeAfter
      split
      · rename_i foreign
        rw [List.filter_append, separator, ih, List.nil_append,
          List.filter_cons_of_neg (by simpa using foreign)]
      · rename_i alphanumeric
        have plain : c.isAlphanum = true := by simpa using alphanumeric
        have letter : (c.toLower != '_') = true := by simpa using toLower_ne_underscore plain
        rw [List.filter_append, separator, List.nil_append,
          List.filter_cons_of_pos (p := (· != '_')) letter, ih, List.filter_cons_of_pos plain,
          List.map_cons]

/-! ## What is left alone -/

theorem isAlphanum_of_isSnakeChar {c : Char} (snake : IsSnakeChar c) (letter : c ≠ '_') :
    c.isAlphanum = true ∧ c.isUpper = false ∧ c.toLower = c := by
  have word : isWordChar c = true := by
    rcases snake with lower | digit | underscore
    · have small : c.isAlpha = true := (Bool.or_eq_true ..).mpr (.inr lower)
      simp [isWordChar, Char.isAlphanum, small]
    · simp [isWordChar, Char.isAlphanum, digit]
    · exact absurd underscore letter
  exact forall_isWordChar (P := fun c => IsSnakeChar c → c ≠ '_' →
    c.isAlphanum = true ∧ c.isUpper = false ∧ c.toLower = c) (by decide) word snake letter

theorem snakeAfter_eq_self {prev : Option Char} {inWord : Bool} {cs : List Char}
    (chars : ∀ c ∈ cs, IsSnakeChar c) (chain : cs.IsChain Separate)
    (outside : inWord = false → cs.head? ≠ some '_') : snakeAfter prev inWord cs = cs := by
  induction cs generalizing prev inWord with
  | nil => rfl
  | cons c cs ih =>
      rw [List.forall_mem_cons] at chars
      rw [List.isChain_cons] at chain
      unfold snakeAfter
      by_cases letter : c = '_'
      · subst letter
        have inside : inWord = true := Bool.of_not_eq_false fun out => outside out rfl
        have rest : snakeAfter (some '_') false cs = cs :=
          ih chars.2 chain.2 fun _ starts => chain.1 '_' starts ⟨rfl, rfl⟩
        rw [if_pos (by decide), if_pos inside, rest, List.singleton_append]
      · obtain ⟨plain, small, lower⟩ := isAlphanum_of_isSnakeChar chars.1 letter
        have rest : snakeAfter (some c) true cs = cs := ih chars.2 chain.2 Bool.noConfusion
        rw [if_neg (by simp [plain]), small, lower, rest]
        rfl

/-- Without two underscores in a row, no two characters that meet are underscores. -/
theorem isChain_separate_iff {cs : List Char} :
    cs.IsChain Separate ↔ ¬['_', '_'] <:+: cs := by
  rw [List.isChain_iff_forall_rel_of_append_cons_cons]
  constructor
  · rintro separate ⟨front, back, rfl⟩
    exact separate (List.append_assoc front ['_', '_'] back) ⟨rfl, rfl⟩
  · rintro single a b front back rfl ⟨rfl, rfl⟩
    exact single ⟨front, back, List.append_assoc front ['_', '_'] back⟩

/-! ## The statement -/

theorem isSnake_snakeCase (raw : String) : IsSnake (snakeCase raw).toList := by
  rw [snakeCase, String.toList_ofList]
  obtain ⟨chain, first⟩ := separate_snakeAfter none false raw.toList
  have kept := dropWhileEnd_isPrefix (· == '_') (snakeAfter none false raw.toList)
  refine
    { chars := fun c member => isSnakeChar_snakeAfter c (kept.subset member)
      first := fun starts => first rfl ?_
      last := fun ends => ?_
      single := isChain_separate_iff.mp <| chain.prefix kept }
  · obtain ⟨back, whole⟩ := kept
    rw [← whole, List.head?_append, starts, Option.some_or]
  · rw [dropWhileEnd, List.getLast?_reverse] at ends
    exact absurd (not_of_head?_dropWhile ends) (by decide)

/-- Snake case leaves a text alone exactly when it has the form that snake case gives. -/
theorem snakeCase_eq_self_iff {s : String} : snakeCase s = s ↔ IsSnake s.toList := by
  constructor
  · intro same
    rw [← same]
    exact isSnake_snakeCase s
  · intro snake
    have ends : ∀ c, s.toList.getLast? = some c → (c == '_') = false := by
      rintro c last
      refine beq_eq_false_iff_ne.mpr ?_
      rintro rfl
      exact snake.last last
    have chain := isChain_separate_iff.mpr snake.single
    rw [snakeCase, snakeAfter_eq_self snake.chars chain fun _ => snake.first,
      dropWhileEnd_eq_self ends, String.ofList_toList]

theorem filter_snakeCase (raw : String) : (snakeCase raw).toList.filter (· != '_') =
    (raw.toList.filter Char.isAlphanum).map Char.toLower := by
  obtain ⟨back, dropped, whole⟩ :=
    exists_dropped_append (· == '_') (snakeAfter none false raw.toList)
  have nothing : back.filter (· != '_') = [] := by
    refine List.filter_eq_nil_iff.mpr fun c member => ?_
    simpa using dropped c member
  rw [snakeCase, String.toList_ofList, ← filter_snakeAfter none false, whole,
    List.filter_append, nothing, List.append_nil, ← whole]

/-- The snake case of a name has the canonical form and the letters and digits of the name, and it is
its own snake case. -/
structure SpellsInSnakeCase (raw snake : String) : Prop where
  canonical : IsSnake snake.toList
  letters : snake.toList.filter (· != '_') = (raw.toList.filter Char.isAlphanum).map Char.toLower
  again : snakeCase snake = snake

theorem spellsInSnakeCase (raw : String) : SpellsInSnakeCase raw (snakeCase raw) where
  canonical := isSnake_snakeCase raw
  letters := filter_snakeCase raw
  again := snakeCase_eq_self_iff.mpr (isSnake_snakeCase raw)

example : snakeCase "::HTTPServer2 é_X__" = "http_server2_x" := by decide

end ForeignBindings.Identifier
