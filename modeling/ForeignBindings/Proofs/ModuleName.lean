import ForeignBindings.Proofs.Generation
import ForeignBindings.Proofs.SnakeCase
import ForeignBindings.Proofs.ValidIdentifier

/-!
# The directory of a module

The files of a tree stand in a directory that is called like their module. A declaration of the
module looks for a directory without the mark of a raw identifier, so it finds the files unless the
namespace is a keyword in snake case (`generate_namesModule`).
-/

namespace ForeignBindings
open Identifier Text

namespace Identifier

/-! ## Separators of namespaces -/

/-- Writes an underscore for each pair of colons. -/
def joinScopes : List Char → List Char
  | ':' :: ':' :: cs => '_' :: joinScopes cs
  | c :: cs => c :: joinScopes cs
  | [] => []

/-- The name that is split into words, with the separators of its scopes joined. -/
def joinedScopes (scope : String) : String := String.ofList (joinScopes scope.toList)

theorem any_isLower_joinScopes (cs : List Char) :
    (joinScopes cs).head?.any Char.isLower = cs.head?.any Char.isLower := by
  unfold joinScopes
  split <;> rfl

/-- Behind a separator it makes no difference which one it was. -/
theorem snakeAfter_outside (prev prev' : Option Char) (cs : List Char) :
    snakeAfter prev false cs = snakeAfter prev' false cs := by
  cases cs with
  | nil => rfl
  | cons c cs => simp [snakeAfter]

theorem startsWord_congr {next next' : Option Char}
    (same : next.any Char.isLower = next'.any Char.isLower) (prev : Option Char) :
    startsWord prev next = startsWord prev next' := by
  unfold startsWord
  rw [same]

theorem snakeAfter_joinScopes (prev : Option Char) (inWord : Bool) (cs : List Char) :
    snakeAfter prev inWord (joinScopes cs) = snakeAfter prev inWord cs := by
  fun_induction joinScopes cs generalizing prev inWord with
  | case1 cs ih =>
      have once (c : Char) (foreign : c.isAlphanum = false) (rest : List Char) :
          snakeAfter prev inWord (c :: rest) =
            (if inWord then ['_'] else []) ++ snakeAfter (some c) false rest := by
        rw [snakeAfter, if_pos (by simp [foreign])]
      have colon : snakeAfter (some ':') false (':' :: cs) = snakeAfter (some ':') false cs := rfl
      rw [once '_' (by decide), once ':' (by decide), ih, colon,
        snakeAfter_outside (some '_') (some ':')]
  | case2 c cs _ ih =>
      rw [snakeAfter, snakeAfter, ih, ih, startsWord_congr (any_isLower_joinScopes cs)]
  | case3 => rfl

theorem snakeCase_joinedScopes (scope : String) :
    snakeCase (joinedScopes scope) = snakeCase scope := by
  rw [snakeCase, joinedScopes, String.toList_ofList, snakeAfter_joinScopes, snakeCase]

/-! ## Names of modules -/

/-- The names of directories: small letters, digits and underscores, with no digit first. -/
structure IsDirectoryName (name : String) : Prop where
  nonempty : name ≠ ""
  chars : ∀ c ∈ name.toList, IsSnakeChar c
  noDigit : startsWithDigit name.toList = false

theorem IsSnakeChar.isWordChar {c : Char} (snake : IsSnakeChar c) : isWordChar c = true := by
  by_cases letter : c = '_'
  · subst letter
    decide
  · exact isWordChar_of_isAlphanum (isAlphanum_of_isSnakeChar snake letter).1

theorem IsDirectoryName.isWord {name : String} (directory : IsDirectoryName name) : IsWord name :=
  fun c member => (directory.chars c member).isWordChar

theorem bare_of_isWord {s : String} (word : IsWord s) : bare s = s := by
  have kept : dropRawMarks s.toList = s.toList := by
    unfold dropRawMarks
    split
    · rename_i whole
      have mark : isWordChar '#' = true := word '#' (by simp [whole])
      exact absurd mark (by decide)
    · rfl
  rw [bare, kept, String.ofList_toList]

theorem bare_mark {s : String} (word : IsWord s) : bare ("r#" ++ s) = s := by
  have dropped : dropRawMarks ("r#" ++ s).toList = dropRawMarks s.toList := by simp [dropRawMarks]
  rw [bare, dropped, ← bare, bare_of_isWord word]

theorem plain_of_mem_keywords : ∀ word ∈ keywords, word ≠ "" ∧
    startsWithDigit word.toList = false ∧ startsWithDigit word.toList.tail = false ∧
    word ∉ reservedWords := by decide

theorem isDirectoryName_of_mem {scope : String} (keyword : snakeCase scope ∈ keywords) :
    IsDirectoryName (snakeCase scope) where
  nonempty := (plain_of_mem_keywords _ keyword).1
  chars := (isSnake_snakeCase scope).chars
  noDigit := (plain_of_mem_keywords _ keyword).2.1

theorem moduleName_of_mem {scope : String} (keyword : snakeCase scope ∈ keywords) :
    moduleName scope = "r#" ++ snakeCase scope := by
  obtain ⟨nonempty, noDigit, -, unreserved⟩ := plain_of_mem_keywords _ keyword
  have spelled := spelling_of_isWord (isWord_snakeCase scope)
  have nonblank : spelling (snakeCase scope) ≠ [] := by
    rw [spelled]
    exact fun empty => nonempty (String.toList_eq_nil_iff.mp empty)
  rw [moduleName, ident_of_spelling nonblank, spelled, guardDigit, noDigit,
    if_neg Bool.false_ne_true, String.ofList_toList, guardKeyword, if_neg unreserved,
    if_pos keyword]

/-- What `ident` does to a name in snake case before it looks for keywords. -/
theorem isDirectoryName_guardDigit {cs : List Char} (snake : IsSnake cs) (nonempty : cs ≠ []) :
    IsDirectoryName (String.ofList (guardDigit cs)) where
  nonempty empty := guardDigit_ne_nil nonempty (by simpa using congrArg String.toList empty)
  chars := by
    rw [String.toList_ofList]
    unfold guardDigit
    split
    · exact List.forall_mem_cons.mpr ⟨.inr (.inr rfl), snake.chars⟩
    · exact snake.chars
  noDigit := by
    rw [String.toList_ofList]
    exact startsWithDigit_guardDigit cs

theorem isDirectoryName_guardKeyword {word : String} (directory : IsDirectoryName word)
    (free : word ∉ keywords) : IsDirectoryName (guardKeyword word) := by
  rw [guardKeyword, if_neg free]
  split
  · rename_i reserved
    have first : ∀ word ∈ reservedWords, startsWithDigit (word ++ "_").toList = false := by decide
    refine
      { nonempty := fun empty => ?_
        chars := fun c member => ?_
        noDigit := first word reserved }
    · simpa using congrArg String.toList empty
    · rw [String.toList_append, List.mem_append] at member
      rcases member with inWord | behind
      · exact directory.chars c inWord
      · exact .inr (.inr (by simpa using behind))
  · exact directory

theorem isDirectoryName_moduleName {scope : String} (free : snakeCase scope ∉ keywords) :
    IsDirectoryName (moduleName scope) := by
  have spelled := spelling_of_isWord (isWord_snakeCase scope)
  by_cases blank : spelling (snakeCase scope) = []
  · rw [moduleName, ident_of_blank blank]
    exact ⟨by decide, by simp [IsSnakeChar], by decide⟩
  · rw [moduleName, ident_of_spelling blank, spelled]
    rw [spelled] at blank
    refine isDirectoryName_guardKeyword
      (isDirectoryName_guardDigit (isSnake_snakeCase scope) blank) fun keyword => free ?_
    -- No keyword has a digit behind its first letter, so nothing was put in front of the name.
    obtain ⟨-, -, later, -⟩ := plain_of_mem_keywords _ keyword
    have unguarded := eq_of_guardDigit_eq String.toList_ofList.symm later
    rw [String.toList_ofList] at unguarded
    rwa [← unguarded, String.ofList_toList] at keyword

/-! ## The statement -/

/-- The name of the module of a namespace is an identifier. Without the mark it can be the name of a
directory, where a declaration of the module looks. It has no mark exactly when the namespace is no
keyword in snake case, and separators of scopes count like underscores. -/
structure NamesModule (scope name : String) : Prop where
  identifier : IsIdentifier name
  lookedUp : IsDirectoryName (bare name)
  directory : IsDirectoryName name ↔ snakeCase scope ∉ keywords
  found : bare name = name ↔ snakeCase scope ∉ keywords
  marked : snakeCase scope ∈ keywords → name = "r#" ++ snakeCase scope
  joined : moduleName (joinedScopes scope) = name

theorem isIdentifier_moduleName (scope : String) : IsIdentifier (moduleName scope) := by
  by_cases blank : spelling (snakeCase scope) = []
  · rw [moduleName, ident_of_blank blank]
    exact .plain (by decide) (by decide)
  · exact isIdentifier_ident blank _

theorem namesModule (scope : String) : NamesModule scope (moduleName scope) := by
  have joined : moduleName (joinedScopes scope) = moduleName scope := by
    rw [moduleName, snakeCase_joinedScopes, moduleName]
  have identifier := isIdentifier_moduleName scope
  by_cases keyword : snakeCase scope ∈ keywords
  · have named := moduleName_of_mem keyword
    have bared : bare (moduleName scope) = snakeCase scope := by
      rw [named, bare_mark (isWord_snakeCase scope)]
    have noWord : ¬IsWord (moduleName scope) := named ▸ not_isWord_mark (snakeCase scope)
    exact
      { identifier
        lookedUp := bared.symm ▸ isDirectoryName_of_mem keyword
        directory := iff_of_false (fun directory => noWord directory.isWord) (not_not_intro keyword)
        found := by
          refine iff_of_false (fun same => noWord ?_) (not_not_intro keyword)
          rw [← same, bared]
          exact isWord_snakeCase scope
        marked := fun _ => named
        joined }
  · have directory := isDirectoryName_moduleName keyword
    have bared := bare_of_isWord directory.isWord
    exact
      { identifier
        lookedUp := bared.symm ▸ directory
        directory := iff_of_true directory keyword
        found := iff_of_true bared keyword
        marked := fun known => absurd known keyword
        joined }

end Identifier

theorem fileName_generate {tree : List Declaration} {options : Options} {generation : Generation}
    (h : generate tree options = .ok generation) :
    generation.code.sections.map (·.fileName) =
      SectionKind.all.map fun kind => moduleName options.scope ++ "/" ++ kind.stem ++ ".rs" := by
  obtain ⟨set, -, code⟩ := generate_ok h
  rw [code]
  rfl

theorem generate_namesModule {tree : List Declaration} {options : Options}
    {generation : Generation} (h : generate tree options = .ok generation) :
    NamesModule options.scope (moduleName options.scope) ∧
      generation.code.sections.map (·.fileName) =
        SectionKind.all.map fun kind => moduleName options.scope ++ "/" ++ kind.stem ++ ".rs" :=
  ⟨namesModule options.scope, fileName_generate h⟩

/-- Separators at both ends, a digit in front and a letter beyond seven bits. -/
theorem generate_namesModule_mixed :
    let options : Options := ⟨"::3D.Größe::", "lib", .cdecl⟩
    ∃ generation, generate [] options = .ok generation ∧
      NamesModule options.scope (moduleName options.scope) ∧
        generation.code.sections.map (·.fileName) =
          SectionKind.all.map fun kind => moduleName options.scope ++ "/" ++ kind.stem ++ ".rs" := by
  intro options
  have generated : generate [] options = .ok _ := rfl
  exact ⟨_, generated, generate_namesModule generated⟩

/-- The files of a namespace called like a keyword stand in a directory with a mark. -/
theorem fileNames_type_marked :
    ∃ generation, generate [] ⟨"type", "lib", .cdecl⟩ = .ok generation ∧
      generation.code.sections.map (·.fileName) =
        SectionKind.all.map (fun kind => "r#type/" ++ kind.stem ++ ".rs") ∧
      ¬IsDirectoryName "r#type" ∧ bare "r#type" = "type" := by
  refine ⟨_, rfl, by decide, fun directory => ?_, by decide⟩
  exact absurd (directory.chars '#' (by decide)) (by decide)

end ForeignBindings
