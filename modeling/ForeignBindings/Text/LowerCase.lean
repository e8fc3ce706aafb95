import ForeignBindings.Text.CaseTable
import ForeignBindings.Text.CodePoints

/-!
# Lower case

The lower-case form of a text, letter by letter. A capital sigma is the one letter whose form
depends on its neighbours: it becomes a final sigma at the end of a word.
-/

namespace ForeignBindings.Text
open CaseTable

/-- The lower-case form of a character on its own. The dotted capital I keeps its dot as a combining
mark. -/
def lowerChar (c : Char) : List Char :=
  if c.toNat < 0x80 then [c.toLower]
  else if c.toNat = 0x130 then ['i', '\u0307']
  else
    match lowerRuns.find? fun run =>
      run.first ≤ c.toNat && c.toNat ≤ run.last && (c.toNat - run.first) % run.step == 0 with
    | some run => [Char.ofNat (run.target + (c.toNat - run.first))]
    | none => [c]

/-- Whether the first character that is not skipped is a letter with case. -/
def meetsLetter (cs : List Char) : Bool :=
  ((cs.dropWhile (inRanges caseIgnorable)).head?).any (inRanges cased)

/-- The lower-case form of a capital sigma between the reversed text `before` and the text
`after`. -/
def lowerSigma (before after : List Char) : Char :=
  if meetsLetter before && !meetsLetter after then 'ς' else 'σ'

/-- Lower case of a text, after the reversed text `before`. -/
def lowerAfter (before : List Char) : List Char → List Char
  | [] => []
  | c :: cs =>
    (if c = 'Σ' then [lowerSigma before cs] else lowerChar c) ++ lowerAfter (c :: before) cs

def lowerCase (s : String) : String := String.ofList (lowerAfter [] s.toList)

end ForeignBindings.Text
