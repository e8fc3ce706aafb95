/-!
# Blank characters and trimming

A character is blank when it has the Unicode property `White_Space`, which twenty-five code points
have. Trimming takes blank characters off the ends of a text and leaves its inside alone:
`trim_eq_self` says when nothing happens.
-/

namespace ForeignBindings.Text

/-- The characters with the Unicode property `White_Space`. -/
def isBlank (c : Char) : Bool :=
  ('\t' ≤ c && c ≤ '\r') || c == ' ' || c == '\u0085' || c == '\u00a0' || c == '\u1680' ||
    ('\u2000' ≤ c && c ≤ '\u200a') || c == '\u2028' || c == '\u2029' || c == '\u202f' ||
    c == '\u205f' || c == '\u3000'

/-- The blank characters of seven-bit text that count inside a function-pointer marker. The
vertical tab is not one of them. -/
def isAsciiBlank (c : Char) : Bool :=
  c == ' ' || c == '\t' || c == '\n' || c == '\r' || c == '\x0c'

/-- Drops the blank characters at the front. -/
def trimStart (cs : List Char) : List Char := cs.dropWhile isBlank

/-- Drops the characters at the end for which `p` holds. -/
def dropWhileEnd (p : Char → Bool) (cs : List Char) : List Char := (cs.reverse.dropWhile p).reverse

/-- Drops the blank characters at the end. -/
def trimEnd (cs : List Char) : List Char := dropWhileEnd isBlank cs

/-- Drops the blank characters at both ends. -/
def trim (cs : List Char) : List Char := trimEnd (trimStart cs)

theorem dropWhileEnd_eq_self {p : Char → Bool} {cs : List Char}
    (h : ∀ c, cs.getLast? = some c → p c = false) : dropWhileEnd p cs = cs := by
  unfold dropWhileEnd
  cases hr : cs.reverse with
  | nil => simpa using hr.symm
  | cons c rest =>
    have hc : p c = false := h c (by rw [List.getLast?_eq_head?_reverse, hr]; rfl)
    rw [List.dropWhile_cons_of_neg (by simp [hc]), ← hr, List.reverse_reverse]

theorem trim_eq_self {cs : List Char} (hfirst : ∀ c, cs.head? = some c → isBlank c = false)
    (hlast : ∀ c, cs.getLast? = some c → isBlank c = false) : trim cs = cs := by
  have hstart : trimStart cs = cs := by
    cases cs with
    | nil => rfl
    | cons c rest => exact List.dropWhile_cons_of_neg (by simp [hfirst c rfl])
  unfold trim trimEnd
  rw [hstart]
  exact dropWhileEnd_eq_self hlast

end ForeignBindings.Text
