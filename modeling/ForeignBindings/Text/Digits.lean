/-!
# Numbers written in digits

Reads natural numbers in a base up to thirty-six. A plus sign may stand in front; nothing else may
stand beside the digits.
-/

namespace ForeignBindings.Text

/-- The value of a digit, with letters of either case after `9`. -/
def digitValue (c : Char) : Nat :=
  if c.isDigit then c.toNat - '0'.toNat
  else if 'a' ≤ c ∧ c ≤ 'z' then c.toNat - 'a'.toNat + 10
  else if 'A' ≤ c ∧ c ≤ 'Z' then c.toNat - 'A'.toNat + 10
  else 36

/-- Reads digits of base `base` onto the number `acc`. -/
def digitsOnto (base : Nat) : Nat → List Char → Option Nat
  | acc, [] => some acc
  | acc, c :: cs =>
    if digitValue c < base then digitsOnto base (acc * base + digitValue c) cs else none

/-- Reads a nonempty run of digits, with one plus sign before it allowed. -/
def readNatural (base : Nat) : List Char → Option Nat
  | [] => none
  | '+' :: [] => none
  | '+' :: cs => digitsOnto base 0 cs
  | cs => digitsOnto base 0 cs

def readWord (base : Nat) (cs : List Char) : Option UInt64 := do
  let n ← readNatural base cs
  if n < UInt64.size then some n.toUInt64 else none

end ForeignBindings.Text
