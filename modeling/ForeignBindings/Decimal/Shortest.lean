/-!
# Shortest decimals

A binary number of double precision stands for all reals that round to it. Its shortest decimal is
the one with the fewest digits among those reals, and of several such decimals the nearest; which
way a tie goes is a choice. The search walks the decimal grids from coarse to fine and looks at the
two grid points next to the number, in exact arithmetic.
-/

namespace ForeignBindings

/-- The number `digits * 10 ^ exponent`. -/
structure Decimal where
  digits : Nat
  exponent : Int
deriving Repr, DecidableEq

namespace Decimal

/-- Where a number goes that lies in the middle between two decimals. -/
inductive Tie
  /-- To the one with the even last digit. -/
  | toEven
  /-- To the larger one. -/
  | up
deriving Repr, DecidableEq

/-- A positive fraction together with the closed interval of reals around it, all over one
denominator. -/
structure Rounding where
  lower : Nat
  value : Nat
  upper : Nat
  denominator : Nat
  /-- Whether the ends of the interval belong to it. -/
  isClosed : Bool
deriving Repr, DecidableEq

/-- The reals that round to the number `mantissa * 2 ^ exponent`. Below a power of two the
distance to the next number is half as long. -/
def Rounding.of (mantissa : Nat) (exponent : Int) (isPowerOfTwo : Bool) : Rounding :=
  let scale := if 2 ≤ exponent then Nat.pow 2 (exponent - 2).toNat else 1
  { lower := (4 * mantissa - if isPowerOfTwo then 1 else 2) * scale
    value := 4 * mantissa * scale
    upper := (4 * mantissa + 2) * scale
    denominator := if 2 ≤ exponent then 1 else Nat.pow 2 (2 - exponent).toNat
    isClosed := mantissa % 2 == 0 }

namespace Rounding

/-- The same interval, measured in units of `10 ^ k`. -/
def scaled (r : Rounding) (k : Int) : Rounding :=
  if 0 ≤ k then { r with denominator := r.denominator * Nat.pow 10 k.toNat }
  else
    let factor := Nat.pow 10 (-k).toNat
    { r with lower := r.lower * factor, value := r.value * factor, upper := r.upper * factor }

/-- Whether a whole number lies in the interval. -/
def holds (r : Rounding) (n : Nat) : Bool :=
  let x := n * r.denominator
  if r.isClosed then r.lower ≤ x && x ≤ r.upper else r.lower < x && x < r.upper

/-- The whole number in the interval that is nearest to its value, if one of the two neighbours of
the value lies in it. -/
def nearest? (r : Rounding) (tie : Tie) : Option Nat :=
  let below := r.value / r.denominator
  let rest := r.value % r.denominator
  match r.holds below, r.holds (below + 1) with
  | false, false => none
  | true, false => some below
  | false, true => some (below + 1)
  | true, true =>
    if 2 * rest < r.denominator then some below
    else if r.denominator < 2 * rest then some (below + 1)
    else some (if tie = .toEven ∧ below % 2 = 0 then below else below + 1)

/-- Looks for the first power of ten, from `10 ^ j` on, that lifts the value to one. -/
def lift (r : Rounding) (j : Nat) : Nat → Int
  | 0 => -j
  | fuel + 1 => if r.denominator ≤ r.value * Nat.pow 10 j then -j else lift r (j + 1) fuel

/-- The largest `k` with `10 ^ k` at most the value. -/
def magnitude (r : Rounding) : Int :=
  if r.denominator ≤ r.value then ((Nat.toDigits 10 (r.value / r.denominator)).length : Int) - 1
  else r.lift 1 400

end Rounding

/-- Takes zeros off the end of the digits. -/
def strip (digits : Nat) (exponent : Int) : Nat → Decimal
  | 0 => ⟨digits, exponent⟩
  | fuel + 1 =>
    if digits ≠ 0 ∧ digits % 10 = 0 then strip (digits / 10) (exponent + 1) fuel
    else ⟨digits, exponent⟩

/-- Searches the grids with `count`, `count + 1`, … digits. -/
def search (r : Rounding) (tie : Tie) (magnitude : Int) (count : Nat) : Nat → Decimal
  | 0 => ⟨0, 0⟩
  | fuel + 1 =>
    let k := magnitude + 1 - count
    match (r.scaled k).nearest? tie with
    | some n => strip n k 20
    | none => search r tie magnitude (count + 1) fuel

/-- The shortest decimal for the magnitude of a finite number of double precision, given by its
bits. -/
def shortest (tie : Tie) (bits : UInt64) : Decimal :=
  let fraction := (bits &&& 0xFFFFFFFFFFFFF).toNat
  let biased := ((bits >>> 52) &&& 0x7FF).toNat
  if biased = 0 ∧ fraction = 0 then ⟨0, 0⟩
  else
    let r :=
      if biased = 0 then Rounding.of fraction (-1074) false
      else
        Rounding.of (fraction + Nat.pow 2 52) ((biased : Int) - 1075) (fraction == 0 && biased != 1)
    search r tie r.magnitude 1 17

/-- Whether the number with these bits is infinite or no number at all. -/
def isSpecial (bits : UInt64) : Bool := (bits >>> 52) &&& 0x7FF == 0x7FF

/-- Whether the number with these bits is negative; zero has a sign too. -/
def isNegative (bits : UInt64) : Bool := bits >>> 63 == 1

end Decimal

end ForeignBindings
