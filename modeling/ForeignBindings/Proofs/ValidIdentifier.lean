import ForeignBindings.Proofs.SharedIdentifier

/-!
# Identifiers that the emitted language accepts

The grammar of identifiers is stated here on its own, with the words of the language grouped as the
language groups them; `ident` has lists of its own, which are compared with them once
(`mem_languageWords_iff`). Every name that is not blank becomes an identifier of the grammar
(`isIdentifier_ident`), and the names that stay as they are written are the identifiers without a
mark (`ident_eq_self_iff`).
-/

namespace ForeignBindings.Identifier
open ForeignBindings.Text

/-! ## The grammar -/

/-- Keywords in use, those that name a place in a path aside. -/
def strictKeywords : List String :=
  ["as", "async", "await", "break", "const", "continue", "dyn", "else", "enum", "extern", "false",
    "fn", "for", "if", "impl", "in", "let", "loop", "match", "mod", "move", "mut", "pub", "ref",
    "return", "static", "struct", "trait", "true", "type", "unsafe", "use", "where", "while"]

/-- Keywords that are kept for later use. -/
def futureKeywords : List String :=
  ["abstract", "become", "box", "do", "final", "gen", "macro", "override", "priv", "try", "typeof",
    "unsized", "virtual", "yield"]

/-- Keywords that name a place in a path. No raw identifier may spell them. -/
def pathKeywords : List String := ["crate", "self", "super", "Self"]

/-- The words that are no identifiers as they stand: the keywords and the wildcard. -/
def languageWords : List String := strictKeywords ++ futureKeywords ++ pathKeywords ++ ["_"]

/-- A text that starts like a word and goes on like one. -/
def isWordText : List Char → Bool
  | [] => false
  | c :: cs => (c.isAlpha || c == '_') && cs.all isWordChar

/-- The identifiers of the emitted language, raw ones for keywords only. -/
inductive IsIdentifier : String → Prop
  | plain {name} : isWordText name.toList = true → name ∉ languageWords → IsIdentifier name
  | raw {word} : word ∈ strictKeywords ++ futureKeywords → IsIdentifier ("r#" ++ word)

/-! ## Names become identifiers -/

/-- The words that `ident` knows are those of the language. -/
theorem mem_languageWords_iff {word : String} :
    word ∈ languageWords ↔ word ∈ reservedWords ∨ word ∈ keywords := by
  have known : ∀ word ∈ languageWords, word ∈ reservedWords ∨ word ∈ keywords := by decide
  have reserved : ∀ word ∈ reservedWords, word ∈ languageWords := by decide
  have marked : ∀ word ∈ keywords, word ∈ languageWords := by decide
  exact ⟨known word, (·.elim (reserved word) (marked word))⟩

theorem mem_keywords_iff {word : String} :
    word ∈ keywords ↔ word ∈ strictKeywords ++ futureKeywords := by
  have marked : ∀ word ∈ keywords, word ∈ strictKeywords ++ futureKeywords := by decide
  have known : ∀ word ∈ strictKeywords ++ futureKeywords, word ∈ keywords := by decide
  exact ⟨marked word, known word⟩

theorem isWordText_of_word {cs : List Char} (nonempty : cs ≠ [])
    (word : ∀ c ∈ cs, isWordChar c = true) (plain : startsWithDigit cs = false) :
    isWordText cs = true := by
  cases cs with
  | nil => exact absurd rfl nonempty
  | cons c rest =>
      -- A character of words that is no digit is a letter or an underscore.
      have first := word c List.mem_cons_self
      have noDigit : c.isDigit = false := plain
      rw [isWordChar, Char.isAlphanum, noDigit, Bool.or_false] at first
      rw [isWordText, first, Bool.true_and, List.all_eq_true]
      exact fun d member => word d (List.mem_cons_of_mem c member)

theorem isIdentifier_guardKeyword {word : String} (plain : isWordText word.toList = true) :
    IsIdentifier (guardKeyword word) := by
  unfold guardKeyword
  split
  · rename_i reserved
    have escaped : ∀ word ∈ reservedWords, isWordText (word ++ "_").toList = true ∧
        word ++ "_" ∉ languageWords := by decide
    exact .plain (escaped word reserved).1 (escaped word reserved).2
  · rename_i unreserved
    split
    · rename_i keyword
      exact .raw (mem_keywords_iff.mp keyword)
    · rename_i unmarked
      exact .plain plain fun known =>
        (mem_languageWords_iff.mp known).elim unreserved unmarked

/-- A name that is not blank becomes an identifier, whatever characters it holds. -/
theorem isIdentifier_ident {raw : String} (nonblank : spelling raw ≠ []) (fallback : String) :
    IsIdentifier (ident raw fallback) := by
  rw [ident_of_spelling nonblank]
  apply isIdentifier_guardKeyword
  have word := isWord_guardDigit raw
  rw [IsWord, String.toList_ofList] at word
  rw [String.toList_ofList]
  exact isWordText_of_word (guardDigit_ne_nil nonblank) word (startsWithDigit_guardDigit _)

/-! ## Names that stay as they are -/

def IsBlankName (raw : String) : Prop := ∀ c ∈ raw.toList, isBlank c = true

theorem spelling_eq_nil_iff {raw : String} : spelling raw = [] ↔ IsBlankName raw := by
  rw [spelling, List.map_eq_nil_iff]
  constructor
  · intro empty c member
    by_contra visible
    exact trim_ne_nil member (Bool.eq_false_iff.mpr visible) empty
  · intro blank
    rw [trim, trimStart, List.dropWhile_eq_nil_iff.mpr blank]
    rfl

theorem isBlank_of_isIdentChar {c : Char} (plain : IsIdentChar c) : isBlank c = false := by
  rcases plain with word | rfl
  · exact isBlank_of_isWordChar word
  · decide

theorem length_le_guardDigit (cs : List Char) : cs.length ≤ (guardDigit cs).length := by
  unfold guardDigit
  split
  · exact Nat.le_succ _
  · exact Nat.le_refl _

theorem eq_of_guardKeyword_eq_mark {u v : String} (word : IsWord u)
    (marked : guardKeyword u = "r#" ++ v) : u = v := by
  unfold guardKeyword at marked
  split at marked
  · exact absurd (marked ▸ word.append (isWord_ofList rfl)) (not_isWord_mark v)
  · split at marked
    · simpa using marked
    · exact absurd (marked ▸ word) (not_isWord_mark v)

/-- A name that is written with a mark gets another identifier: the mark is a foreign character in a
name, and what replaces it stays. -/
theorem ident_mark_ne {word : String} (plain : IsWord word) (fallback : String) :
    ident ("r#" ++ word) fallback ≠ "r#" ++ word := by
  have visible : ∀ c ∈ ("r#" ++ word).toList, isBlank c = false := by
    intro c member
    refine isBlank_of_isIdentChar ?_
    obtain rfl | rfl | inWord : c = 'r' ∨ c = '#' ∨ c ∈ word.toList := by simpa using member
    · exact .inl (by decide)
    · exact .inr rfl
    · exact .inl (plain c inWord)
  have trimmed : trim ("r#" ++ word).toList = ("r#" ++ word).toList :=
    trim_eq_self (fun c first => visible c (List.mem_of_head? first))
      fun c last => visible c (List.mem_of_getLast? last)
  have length : (spelling ("r#" ++ word)).length = word.toList.length + 2 := by
    rw [spelling, trimmed, List.length_map]
    simp
  have nonblank : spelling ("r#" ++ word) ≠ [] := by
    intro empty
    simp [empty] at length
  intro same
  rw [ident_of_spelling nonblank] at same
  have letters := congrArg String.toList (eq_of_guardKeyword_eq_mark (isWord_guardDigit _) same)
  have longer := length_le_guardDigit (spelling ("r#" ++ word))
  rw [String.toList_ofList] at letters
  rw [letters] at longer
  omega

/-- The identifiers without a mark. -/
def IsPlain (name : String) : Prop := isWordText name.toList = true ∧ name ∉ languageWords

theorem word_of_isWordText {cs : List Char} (text : isWordText cs = true) :
    (∀ c ∈ cs, isWordChar c = true) ∧ startsWithDigit cs = false := by
  cases cs with
  | nil => cases text
  | cons c rest =>
      obtain ⟨first, later⟩ := Bool.and_eq_true_iff.mp text
      have word : isWordChar c = true := by
        rw [isWordChar, Char.isAlphanum, Bool.or_right_comm, first, Bool.true_or]
      have noDigit : c.isDigit = false :=
        forall_isWordChar (P := fun c => (c.isAlpha || c == '_') = true → c.isDigit = false)
          (by decide) word first
      exact ⟨List.forall_mem_cons.mpr ⟨word, List.all_eq_true.mp later⟩, noDigit⟩

theorem ident_eq_self_iff {raw : String} (nonblank : spelling raw ≠ []) (fallback : String) :
    ident raw fallback = raw ↔ IsPlain raw := by
  constructor
  · intro same
    have valid := isIdentifier_ident nonblank fallback
    rw [same] at valid
    cases valid with
    | plain text unreserved => exact ⟨text, unreserved⟩
    | @raw word keyword =>
        have words : ∀ word ∈ strictKeywords ++ futureKeywords, word.toList.all isWordChar = true := by
          decide
        exact absurd same (ident_mark_ne (List.all_eq_true.mp (words word keyword)) fallback)
  · rintro ⟨text, free⟩
    obtain ⟨word, noDigit⟩ := word_of_isWordText text
    have unreserved : raw ∉ reservedWords ∧ raw ∉ keywords :=
      not_or.mp fun known => free (mem_languageWords_iff.mpr known)
    rw [ident_of_spelling nonblank, spelling_of_isWord word, guardDigit, noDigit,
      if_neg Bool.false_ne_true, String.ofList_toList,
      guardKeyword_eq_self unreserved.1 unreserved.2]

/-! ## The statement -/

/-- The identifier of a name is the fallback for a blank one. For any other it is one of the grammar
that does not depend on the fallback, and it is the name itself exactly for a plain identifier. -/
structure Identifies (raw fallback name : String) : Prop where
  blank : IsBlankName raw → name = fallback
  valid : ¬IsBlankName raw → IsIdentifier name
  anyFallback : ¬IsBlankName raw → ∀ other, ident raw other = name
  unchanged : ¬IsBlankName raw → (name = raw ↔ IsPlain raw)

theorem identifies (raw fallback : String) : Identifies raw fallback (ident raw fallback) := by
  have spelled : ¬IsBlankName raw → spelling raw ≠ [] := mt spelling_eq_nil_iff.mp
  exact
    { blank := fun blank => ident_of_blank (spelling_eq_nil_iff.mpr blank) fallback
      valid := fun nonblank => isIdentifier_ident (spelled nonblank) fallback
      anyFallback := fun nonblank other => by
        rw [ident_of_spelling (spelled nonblank), ident_of_spelling (spelled nonblank)]
      unchanged := fun nonblank => ident_eq_self_iff (spelled nonblank) fallback }

end ForeignBindings.Identifier
