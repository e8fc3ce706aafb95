import ForeignBindings.Layout
import ForeignBindings.Proofs.Identifier
import Mathlib.Data.List.Basic

/-!
# What a source defines

A function of the emitted module is defined by a line that starts with its head, and an alias by a
line of its own. The lines of a block are indented, so that a block defines what its head does
(`ReadsHeads.filterMap_block`), and comments define nothing.
-/

namespace ForeignBindings.Layout
open Identifier Text

/-- What follows the visibility and the mark of an unsafe function. -/
def afterMarks : List Char → List Char
  | 'p' :: 'u' :: 'b' :: ' ' :: cs => afterMarks cs
  | 'u' :: 'n' :: 's' :: 'a' :: 'f' :: 'e' :: ' ' :: cs => afterMarks cs
  | cs => cs

/-- The name of the function whose head the characters spell. -/
def headName? (cs : List Char) : Option String :=
  match afterMarks cs with
  | 'f' :: 'n' :: ' ' :: rest => some (String.ofList (rest.takeWhile isWordChar))
  | _ => none

/-- The name of the function that a line starts to define. -/
def definedFunction? (line : String) : Option String := headName? line.toList

/-- The names of the functions that a source defines. -/
def definedFunctions (source : String) : List String := (linesOf source).filterMap definedFunction?

theorem definedFunctions_unlines {ls : List String} (unbroken : ∀ l ∈ ls, Unbroken l) :
    definedFunctions (unlines ls) = ls.filterMap definedFunction? := by
  rw [definedFunctions, linesOf_unlines_of_isLine fun l member => (unbroken l member).isLine]

theorem definedFunction?_ofList {cs : List Char} {name : Option String}
    (read : headName? cs = name) : definedFunction? (String.ofList cs) = name := by
  rw [definedFunction?, String.toList_ofList, read]

theorem definedFunction?_head {marks name : String} (rest : String)
    (known : marks ∈ ["", "unsafe ", "pub ", "pub unsafe "])
    (word : IsWord name) :
    definedFunction? (marks ++ "fn " ++ name ++ "(" ++ rest) = some name := by
  have read : (name.toList ++ '(' :: rest.toList).takeWhile isWordChar = name.toList := by
    rw [List.takeWhile_append_of_pos word, List.takeWhile_cons_of_neg (by decide), List.append_nil]
  simp only [List.mem_cons, List.not_mem_nil, or_false] at known
  rcases known with rfl | rfl | rfl | rfl <;> simp [definedFunction?, headName?, afterMarks, read]

/-- A line that starts with a slash. -/
def IsComment (l : String) : Prop := l.toList.head? = some '/'

theorem isComment_ofList (cs : List Char) : IsComment (String.ofList ('/' :: cs)) := by
  rw [IsComment, String.toList_ofList]
  rfl

theorem IsComment.append {l : String} (comment : IsComment l) (rest : String) :
    IsComment (l ++ rest) := by
  rw [IsComment, String.toList_append, List.head?_append, comment]
  rfl

theorem IsComment.dropReturn {l : String} (comment : IsComment l) :
    IsComment (String.ofList (dropReturn l.toList)) := by
  rw [IsComment, String.toList_ofList, Text.dropReturn]
  split
  · rename_i last
    obtain ⟨cs, whole⟩ := List.head?_eq_some_iff.mp comment
    rw [whole] at last ⊢
    cases cs with
    | nil => simp at last
    | cons c cs => rfl
  · exact comment

/-! ## Readers of lines -/

/-- A reader of lines that finds nothing in comments, in blank lines and inside blocks. -/
structure ReadsHeads {β : Type} (read : String → Option β) : Prop where
  comment : ∀ l, IsComment l → read l = none
  blank : read "" = none
  indented : ∀ l, read ("    " ++ l) = none
  closing : read "\x7d" = none

namespace ReadsHeads

variable {β : Type} {read : String → Option β} (heads : ReadsHeads read)
include heads

theorem filterMap_comment {l : String} (comment : IsComment l) (ls : List String) :
    (l :: ls).filterMap read = ls.filterMap read :=
  List.filterMap_cons_none (heads.comment l comment)

theorem filterMap_comments {ls : List String} (comments : ∀ l ∈ ls, IsComment l) :
    ls.filterMap read = [] :=
  List.filterMap_eq_nil_iff.mpr fun l member => heads.comment l (comments l member)

theorem filterMap_blank (ls : List String) : ("" :: ls).filterMap read = ls.filterMap read :=
  List.filterMap_cons_none heads.blank

theorem filterMap_indent (ls : List String) : (indent ls).filterMap read = [] := by
  rw [List.filterMap_eq_nil_iff]
  intro l member
  obtain ⟨l, -, rfl⟩ := List.mem_map.mp member
  split
  · subst l
    exact heads.blank
  · exact heads.indented l

theorem filterMap_block (head : String) (body : List String) :
    (block head body).filterMap read = (read (head ++ " \x7b")).toList := by
  have last : ["\x7d"].filterMap read = [] := List.filterMap_cons_none heads.closing
  rw [block, List.cons_append, List.filterMap_cons, List.filterMap_append, heads.filterMap_indent,
    last]
  cases read (head ++ " \x7b") <;> rfl

theorem filterMap_spaced (items : List (List String)) :
    (spaced items).filterMap read = items.flatMap (·.filterMap read) := by
  rw [spaced, List.filterMap_flatMap]
  exact List.flatMap_congr fun item _ => heads.filterMap_blank item

end ReadsHeads

theorem readsHeads_definedFunction? : ReadsHeads definedFunction? where
  comment := by
    intro l comment
    obtain ⟨cs, whole⟩ := List.head?_eq_some_iff.mp comment
    rw [definedFunction?, whole]
    rfl
  blank := rfl
  indented l := by simp [definedFunction?, headName?, afterMarks]
  closing := rfl

theorem filterMap_comment {l : String} (comment : IsComment l) (ls : List String) :
    (l :: ls).filterMap definedFunction? = ls.filterMap definedFunction? :=
  readsHeads_definedFunction?.filterMap_comment comment ls

theorem filterMap_blank (ls : List String) :
    ("" :: ls).filterMap definedFunction? = ls.filterMap definedFunction? :=
  readsHeads_definedFunction?.filterMap_blank ls

theorem filterMap_block (head : String) (body : List String) :
    (block head body).filterMap definedFunction? = (definedFunction? (head ++ " \x7b")).toList :=
  readsHeads_definedFunction?.filterMap_block head body

/-! ## Aliases and functions -/

/-- What a line starts to define. -/
inductive Definition
  | typeAlias (name : String)
  | function (name : String)
deriving DecidableEq

def Definition.function? : Definition → Option String
  | .typeAlias _ => none
  | .function name => some name

/-- The name of the alias that the characters define. -/
def aliasName? : List Char → Option String
  | 'p' :: 'u' :: 'b' :: ' ' :: 't' :: 'y' :: 'p' :: 'e' :: ' ' :: rest =>
    some (String.ofList (rest.takeWhile isWordChar))
  | _ => none

/-- What a line starts to define, if anything. -/
def definition? (line : String) : Option Definition :=
  match aliasName? line.toList with
  | some name => some (.typeAlias name)
  | none => (definedFunction? line).map .function

/-- What a source defines, in order. -/
def definitions (source : String) : List Definition := (linesOf source).filterMap definition?

theorem definition?_function? (line : String) :
    (definition? line).bind (·.function?) = definedFunction? line := by
  unfold definition?
  split
  · rename_i name found
    have noHead : definedFunction? line = none := by
      unfold aliasName? at found
      split at found
      · rename_i rest whole
        rw [definedFunction?, whole]
        rfl
      · cases found
    exact noHead.symm
  · cases definedFunction? line <;> rfl

theorem definedFunctions_eq (source : String) :
    definedFunctions source = (definitions source).filterMap (·.function?) := by
  rw [definedFunctions, definitions, List.filterMap_filterMap]
  exact List.filterMap_congr fun line _ => (definition?_function? line).symm

theorem definition?_alias {name : String} (word : IsWord name) (rest : String) :
    definition? ("pub type " ++ name ++ " " ++ rest) = some (.typeAlias name) := by
  have read : (name.toList ++ ' ' :: rest.toList).takeWhile isWordChar = name.toList := by
    rw [List.takeWhile_append_of_pos word, List.takeWhile_cons_of_neg (by decide), List.append_nil]
  simp [definition?, aliasName?, read]

theorem definition?_head {marks name : String} (rest : String)
    (known : marks ∈ ["", "unsafe ", "pub ", "pub unsafe "]) (word : IsWord name) :
    definition? (marks ++ "fn " ++ name ++ "(" ++ rest) = some (.function name) := by
  have noAlias : aliasName? (marks ++ "fn " ++ name ++ "(" ++ rest).toList = none := by
    simp only [List.mem_cons, List.not_mem_nil, or_false] at known
    rcases known with rfl | rfl | rfl | rfl <;> simp [aliasName?]
  rw [definition?, noAlias, definedFunction?_head rest known word]
  rfl

theorem readsHeads_definition? : ReadsHeads definition? where
  comment := by
    intro l comment
    obtain ⟨cs, whole⟩ := List.head?_eq_some_iff.mp comment
    rw [definition?, readsHeads_definedFunction?.comment l comment, whole]
    rfl
  blank := rfl
  indented l := by
    rw [definition?, readsHeads_definedFunction?.indented l]
    simp [aliasName?]
  closing := rfl

/-! ## Lines with line endings -/

theorem unbroken_block_iff {head : String} {body : List String} :
    (∀ l ∈ block head body, Unbroken l) ↔ Unbroken head ∧ ∀ l ∈ body, Unbroken l := by
  have indented (l : String) : Unbroken (if l = "" then l else "    " ++ l) ↔ Unbroken l := by
    split
    · exact Iff.rfl
    · rw [unbroken_append_iff]
      exact and_iff_right (unbroken_ofList rfl)
  have opening : Unbroken " \x7b" := unbroken_ofList rfl
  have closing : Unbroken "\x7d" := unbroken_ofList rfl
  simp only [block, indent, List.cons_append, List.forall_mem_cons, List.forall_mem_append,
    List.forall_mem_map, List.not_mem_nil, false_imp_iff, implies_true, unbroken_append_iff,
    indented, opening, closing, and_true]

/-- A line that is read back as it is, or a comment that loses no more than a carriage return at its
end. -/
def Relays (l : String) : Prop := Unbroken l ∨ IsComment l ∧ '\n' ∉ l.toList

theorem ReadsHeads.filterMap_linesOf_unlines {β : Type} {read : String → Option β}
    (heads : ReadsHeads read) {ls : List String} (relays : ∀ l ∈ ls, Relays l) :
    (linesOf (unlines ls)).filterMap read = ls.filterMap read := by
  have single {l : String} (relays : Relays l) : (relaid l).filterMap read = (read l).toList := by
    rcases relays with unbroken | ⟨comment, noFeed⟩
    · rw [relaid_of_isLine unbroken.isLine, List.filterMap_cons]
      cases read l <;> rfl
    · rw [relaid_of_noFeed noFeed, List.filterMap_cons_none (heads.comment _ comment.dropReturn),
        heads.comment l comment]
      rfl
  rw [linesOf_unlines, List.filterMap_flatMap]
  induction ls with
  | nil => rfl
  | cons l ls ih =>
      rw [List.flatMap_cons, single (relays l List.mem_cons_self),
        ih fun l' member => relays l' (List.mem_cons_of_mem l member), List.filterMap_cons]
      cases read l <;> rfl

end ForeignBindings.Layout
