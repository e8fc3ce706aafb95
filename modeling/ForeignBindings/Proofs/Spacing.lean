import ForeignBindings.Proofs.Constness
import ForeignBindings.Proofs.ParameterDecay

/-!
# Spacing of types

A type is a row of words and marks of indirection, and how they are spaced says nothing. Its base
name and its indirection never depend on spacing. Its constness does not either where blank
characters have one byte, so that its shape is the one its tokens have
(`shapeOf_eq_shapeOfTokens`). Two types of seven-bit characters with the same tokens are therefore mapped
alike (`ignoresSpacing`).
-/

namespace ForeignBindings
open CType Text

namespace CType

/-! ## Tokens -/

/-- A word of a type or a mark of indirection. -/
inductive Token
  | word (cs : List Char)
  | mark (c : Char)
deriving Repr, DecidableEq

namespace Token

def word? : Token → Option (List Char)
  | word cs => some cs
  | mark _ => none

def mark? : Token → Option Char
  | word _ => none
  | mark c => some c

def isWord (token : Token) : Bool := token.word?.isSome

end Token

/-- The word whose characters are `run` in reverse, if there are any. -/
def endWord (run : List Char) : List Token := if run = [] then [] else [.word run.reverse]

/-- The tokens of a text behind a run of characters, in reverse, that belong to one word. -/
def tokensFrom : List Char → List Char → List Token
  | run, [] => endWord run
  | run, c :: cs =>
    if isDecoration c then endWord run ++ .mark c :: tokensFrom [] cs
    else if isBlank c then endWord run ++ tokensFrom [] cs
    else tokensFrom (c :: run) cs

/-- The tokens of a text: its marks, and its words as long as they can be, in order. -/
def tokens (cs : List Char) : List Token := tokensFrom [] cs

/-- The shape of a type, read off its tokens: it is constant if a word `const` stands before the
first mark. -/
def shapeOfTokens (tokens : List Token) : Shape :=
  { base := baseName (((tokens.filterMap Token.word?).map String.ofList).filter isBaseWord)
    isConst := ((tokens.takeWhile Token.isWord).filterMap Token.word?).contains "const".toList
    indirection := indirection (tokens.filterMap Token.mark?) }

/-! ## Words and marks among the tokens -/

theorem filterMap_word?_endWord (run : List Char) :
    (endWord run).filterMap Token.word? = [run.reverse].filter (!·.isEmpty) := by
  cases run <;> simp [endWord, Token.word?]

theorem filterMap_mark?_endWord (run : List Char) : (endWord run).filterMap Token.mark? = [] := by
  cases run <;> simp [endWord, Token.mark?]

theorem isWord_of_mem_endWord {run : List Char} : ∀ token ∈ endWord run, token.isWord = true := by
  cases run <;> simp [endWord, Token.isWord, Token.word?]

/-- The words are the pieces between separators that are not empty. -/
theorem filterMap_word?_tokensFrom (run cs : List Char) :
    (tokensFrom run cs).filterMap Token.word? =
      (cs.splitOnPPrepend isSeparator run).filter (!·.isEmpty) := by
  induction cs generalizing run with
  | nil => exact filterMap_word?_endWord run
  | cons c cs ih =>
      have ended (rest : List (List Char)) : (run.reverse :: rest).filter (!·.isEmpty) =
          (endWord run).filterMap Token.word? ++ rest.filter (!·.isEmpty) := by
        rw [filterMap_word?_endWord, ← List.filter_append, List.singleton_append]
      rw [List.splitOnPPrepend_cons_eq_if, tokensFrom, isSeparator]
      by_cases mark : isDecoration c = true
      · rw [if_pos mark, mark, Bool.or_true, if_pos rfl, ended, List.filterMap_append,
          List.filterMap_cons_none rfl, ih, List.splitOnPPrepend_nil_right]
      · rw [if_neg mark, Bool.eq_false_iff.mpr mark, Bool.or_false]
        by_cases blank : isBlank c = true
        · rw [if_pos blank, if_pos blank, ended, List.filterMap_append, ih,
            List.splitOnPPrepend_nil_right]
        · rw [if_neg blank, if_neg blank, ih]

theorem filterMap_word?_tokens (cs : List Char) :
    (tokens cs).filterMap Token.word? = (cs.splitOnP isSeparator).filter (!·.isEmpty) :=
  filterMap_word?_tokensFrom [] cs

theorem filterMap_mark?_tokensFrom (run cs : List Char) :
    (tokensFrom run cs).filterMap Token.mark? = cs.filter isDecoration := by
  induction cs generalizing run with
  | nil => exact filterMap_mark?_endWord run
  | cons c cs ih =>
      rw [tokensFrom]
      by_cases mark : isDecoration c = true
      · rw [if_pos mark, List.filter_cons_of_pos mark, List.filterMap_append,
          filterMap_mark?_endWord, List.nil_append, List.filterMap_cons, ih]
        rfl
      · rw [if_neg mark, List.filter_cons_of_neg mark]
        split
        · rw [List.filterMap_append, filterMap_mark?_endWord, List.nil_append, ih]
        · exact ih (c :: run)

/-- The tokens before the first mark are those of the text before it. -/
theorem takeWhile_isWord_tokensFrom (run cs : List Char) :
    (tokensFrom run cs).takeWhile Token.isWord =
      tokensFrom run (cs.takeWhile (!isDecoration ·)) := by
  induction cs generalizing run with
  | nil => exact List.takeWhile_eq_self_iff.mpr isWord_of_mem_endWord
  | cons c cs ih =>
      rw [tokensFrom]
      by_cases mark : isDecoration c = true
      · rw [if_pos mark, List.takeWhile_append_of_pos isWord_of_mem_endWord,
          List.takeWhile_cons_of_neg (by simp [Token.isWord, Token.word?]), List.append_nil,
          List.takeWhile_cons_of_neg (by simp [mark]), tokensFrom]
      · rw [if_neg mark, List.takeWhile_cons_of_pos (by simp [mark]), tokensFrom, if_neg mark]
        split
        · rw [List.takeWhile_append_of_pos isWord_of_mem_endWord, ih]
        · exact ih (c :: run)

/-! ## The shape of the tokens -/

theorem base_shapeOfTokens (cs : List Char) : (shapeOf cs).base = (shapeOfTokens (tokens cs)).base := by
  have nonempty : ∀ word : List Char, isBaseWord (String.ofList word) = true →
      (!word.isEmpty) = true := by
    intro word kept
    cases word with
    | nil => exact absurd kept (by decide)
    | cons => rfl
  have same : ((cs.splitOnP isSeparator).map String.ofList).filter isBaseWord =
      (((tokens cs).filterMap Token.word?).map String.ofList).filter isBaseWord := by
    rw [filterMap_word?_tokens, List.filter_map, List.filter_map, List.filter_filter]
    refine congrArg _ (List.filter_congr fun word _ => ?_)
    by_cases kept : isBaseWord (String.ofList word) = true
    · simp [kept, nonempty word kept]
    · simp [kept]
  rw [shapeOf, shapeOfTokens, ← same]

theorem indirection_shapeOfTokens (cs : List Char) :
    (shapeOf cs).indirection = (shapeOfTokens (tokens cs)).indirection := by
  have marks : (tokens cs).filterMap Token.mark? = cs.filter isDecoration :=
    filterMap_mark?_tokensFrom [] cs
  have star : (cs.filter isDecoration).count '*' = cs.count '*' := List.count_filter (by decide)
  have reference : '&' ∈ cs.filter isDecoration ↔ '&' ∈ cs := by
    rw [List.mem_filter]
    exact and_iff_left (by decide)
  simp only [shapeOf, shapeOfTokens, marks, indirection, star, reference]

theorem isConst_shapeOfTokens {cs : List Char}
    (narrow : ∀ c ∈ cs, isBlank c = true → c.utf8Size = 1) :
    (shapeOf cs).isConst = (shapeOfTokens (tokens cs)).isConst := by
  have words : ((tokens cs).takeWhile Token.isWord).filterMap Token.word? =
      ((cs.takeWhile (!isDecoration ·)).splitOnP isSeparator).filter (!·.isEmpty) := by
    rw [tokens, takeWhile_isWord_tokensFrom, ← tokens, filterMap_word?_tokens]
  rw [Bool.eq_iff_iff, isConst_shapeOf_iff_of_narrow narrow, appliesConst_iff_mem, shapeOfTokens,
    words, List.contains_iff_mem, List.mem_filter]
  exact (and_iff_left (by decide)).symm

theorem shapeOf_eq_shapeOfTokens {cs : List Char}
    (narrow : ∀ c ∈ cs, isBlank c = true → c.utf8Size = 1) :
    shapeOf cs = shapeOfTokens (tokens cs) := by
  calc shapeOf cs
      = ⟨(shapeOf cs).base, (shapeOf cs).isConst, (shapeOf cs).indirection⟩ := rfl
    _ = shapeOfTokens (tokens cs) := by
        rw [base_shapeOfTokens, isConst_shapeOfTokens narrow, indirection_shapeOfTokens]

/-! ## Blanks around a type -/

theorem tokensFrom_blank_cons {c : Char} (blank : isBlank c = true) (run cs : List Char) :
    tokensFrom run (c :: cs) = endWord run ++ tokensFrom [] cs := by
  have unmarked : ¬isDecoration c = true := fun mark => by
    rw [isBlank_of_isDecoration mark] at blank
    cases blank
  rw [tokensFrom, if_neg unmarked, if_pos blank]

theorem tokensFrom_blanks (run : List Char) {blanks : List Char}
    (blank : ∀ c ∈ blanks, isBlank c = true) : tokensFrom run blanks = endWord run := by
  induction blanks generalizing run with
  | nil => rfl
  | cons c blanks ih =>
      obtain ⟨head, tail⟩ := List.forall_mem_cons.mp blank
      rw [tokensFrom_blank_cons head, ih [] tail]
      exact List.append_nil (endWord run)

theorem tokensFrom_append_blank (run cs : List Char) {blanks : List Char}
    (blank : ∀ c ∈ blanks, isBlank c = true) :
    tokensFrom run (cs ++ blanks) = tokensFrom run cs := by
  induction cs generalizing run with
  | nil => exact tokensFrom_blanks run blank
  | cons c cs ih => rw [List.cons_append, tokensFrom, tokensFrom, ih, ih]

theorem tokens_blank_append {blanks : List Char} (blank : ∀ c ∈ blanks, isBlank c = true)
    (cs : List Char) : tokens (blanks ++ cs) = tokens cs := by
  induction blanks with
  | nil => rfl
  | cons c blanks ih =>
      obtain ⟨head, tail⟩ := List.forall_mem_cons.mp blank
      rw [List.cons_append, tokens, tokensFrom_blank_cons head]
      exact ih tail

theorem tokens_trim (cs : List Char) : tokens (trim cs) = tokens cs := by
  obtain ⟨front, back, blankFront, blankBack, whole⟩ := exists_blanks_trim cs
  calc tokens (trim cs)
      = tokens (front ++ trim cs) := (tokens_blank_append blankFront _).symm
    _ = tokens (front ++ trim cs ++ back) := (tokensFrom_append_blank [] _ blankBack).symm
    _ = tokens cs := by rw [← whole]

end CType

/-! ## The statement -/

theorem mapType_withSpelling_of_narrow {type : String} (plain : isUnbracketed type.toList = true)
    (narrow : ∀ c ∈ type.toList, isBlank c = true → c.utf8Size = 1) (spelling : String) :
    (mapType type).withSpelling spelling =
      (TypeMapping.ofShape spelling (shapeOfTokens (tokens type.toList))).withSpelling spelling := by
  have unopened : '[' ∉ type.toList := not_mem_of_isUnbracketed plain (by decide)
  have unclosed : ')' ∉ type.toList := not_mem_of_isUnbracketed plain (by decide)
  have inside : ∀ c ∈ trim type.toList, isBlank c = true → c.utf8Size = 1 :=
    fun c member => narrow c (mem_of_mem_trim member)
  rw [mapType_eq_ofShape unopened (read?_of_plain unclosed), typeShape,
    shapeOf_eq_shapeOfTokens inside, tokens_trim]
  exact TypeMapping.withSpelling_ofShape _ _ _ _

/-- Two types are mapped alike: their mappings are the same up to the spelling, and so is what
emitters read off them. -/
structure MapsAlike (first second : String) : Prop where
  mapping : ∀ spelling,
    (mapType first).withSpelling spelling = (mapType second).withSpelling spelling
  abiName : (mapType first).abiName = (mapType second).abiName
  targetName : (mapType first).targetName = (mapType second).targetName
  isConst : (mapType first).isConst = (mapType second).isConst
  marshalHint : (mapType first).marshalHint = (mapType second).marshalHint
  paramAbi : (mapType first).paramAbi = (mapType second).paramAbi

theorem mapsAlike_of_mapping {first second : String} (mapping : ∀ spelling,
    (mapType first).withSpelling spelling = (mapType second).withSpelling spelling) :
    MapsAlike first second := by
  have views {α : Type} (view : TypeMapping → α)
      (blind : ∀ m spelling, view (m.withSpelling spelling) = view m) :
      view (mapType first) = view (mapType second) := by
    rw [← blind (mapType first) "", mapping, blind]
  exact
    { mapping := mapping
      abiName := views _ fun m _ => by cases m <;> rfl
      targetName := views _ fun m _ => by cases m <;> rfl
      isConst := views _ fun m _ => by cases m <;> rfl
      marshalHint := views _ fun m _ => by cases m <;> rfl
      paramAbi := views _ TypeMapping.paramAbi_withSpelling }

/-- Only characters of seven bits stand in the text. -/
def isAscii (cs : List Char) : Bool := cs.all fun c => c.toNat < 128

theorem utf8Size_of_isAscii {cs : List Char} (ascii : isAscii cs = true) :
    ∀ c ∈ cs, isBlank c = true → c.utf8Size = 1 := by
  intro c member _
  have small : c.toNat < 128 := of_decide_eq_true (List.all_eq_true.mp ascii c member)
  exact Char.utf8Size_eq_one_iff.mpr (UInt32.le_iff_toNat_le.mpr (Nat.le_of_lt_succ small))

theorem ignoresSpacing {first second : String} (asciiFirst : isAscii first.toList = true)
    (asciiSecond : isAscii second.toList = true) (plainFirst : isUnbracketed first.toList = true)
    (plainSecond : isUnbracketed second.toList = true)
    (same : tokens first.toList = tokens second.toList) : MapsAlike first second := by
  refine mapsAlike_of_mapping fun spelling => ?_
  rw [mapType_withSpelling_of_narrow plainFirst (utf8Size_of_isAscii asciiFirst),
    mapType_withSpelling_of_narrow plainSecond (utf8Size_of_isAscii asciiSecond), same]

/-- A constant name spread over two lines, and with few blanks. -/
theorem ignoresSpacing_name :
    let wide := " struct\t\tns::Name\x0bconst\n* & const volatile "
    let narrow := "struct ns::Name const*&const volatile"
    isAscii wide.toList = true ∧ isAscii narrow.toList = true ∧
      isUnbracketed wide.toList = true ∧ isUnbracketed narrow.toList = true ∧
      tokens wide.toList = tokens narrow.toList ∧ MapsAlike wide narrow :=
  ⟨by decide, by decide, by decide, by decide, by decide,
    ignoresSpacing (by decide) (by decide) (by decide) (by decide) (by decide)⟩

end ForeignBindings
