import ForeignBindings.Decimal.Shortest

/-!
# Decimal numbers as they are written

A written number has a sign, digits before and after the point, and an exponent. A document format
reads it as a number of double precision in one of two ways. The nearest reading rounds once. The
reading in steps rounds the digits first, as many as fit in 64 bits, and then once more when it
multiplies or divides them by a power of ten; where the digits or the power are not exact in double
precision, it can miss the nearest number.
-/

namespace ForeignBindings

/-- A decimal number as it is written, with the values of its digits. -/
structure Numeral where
  isNegative : Bool
  /-- The digits before the point. -/
  whole : List Nat
  /-- The digits after the point. -/
  fraction : List Nat
  exponent : Int
deriving Repr, DecidableEq

namespace Numeral

/-! ## The nearest reading -/

def decimal (n : Numeral) : Decimal :=
  ⟨(n.whole ++ n.fraction).foldl (fun acc digit => 10 * acc + digit) 0,
    n.exponent - n.fraction.length⟩

/-- The number of double precision nearest to a decimal. Far out it is infinite or zero whatever the
digits. -/
def nearest (d : Decimal) : Float :=
  let size := (Nat.toDigits 10 d.digits).length + d.exponent
  if d.digits = 0 ∨ size < -400 then 0
  else if 400 < size then 1 / 0
  else if 0 ≤ d.exponent then Float.ofScientific d.digits false d.exponent.toNat
  else Float.ofScientific d.digits true (-d.exponent).toNat

/-! ## The reading in steps -/

/-- Reads digits onto a number until one no longer fits in 64 bits. The second part holds the digits
that are left. -/
def takeFitting (acc : Nat) : List Nat → Nat × List Nat
  | [] => (acc, [])
  | digit :: digits =>
    if 10 * acc + digit < Nat.pow 2 64 then takeFitting (10 * acc + digit) digits
    else (acc, digit :: digits)

/-- The magnitude of the number without the digits that do not fit in 64 bits. Those before the point
still count as places. -/
def truncated (n : Numeral) : Decimal :=
  let (leading, places) := takeFitting 0 n.whole
  let (digits, unread) := takeFitting leading n.fraction
  ⟨digits, n.exponent + places.length - (n.fraction.length - unread.length : Int)⟩

/-- A power of ten in double precision. -/
def powerOfTen (exponent : Nat) : Float := Float.ofScientific 1 false exponent

/-- Rounds the digits of a decimal, and then their product with its power of ten. The largest power
of ten in double precision is `10 ^ 308`: a smaller decimal is divided twice, and a larger one is
infinite. -/
def scaled (d : Decimal) : Float :=
  let digits := Float.ofScientific d.digits false 0
  if d.digits = 0 ∨ d.exponent < -616 then 0
  else if 308 < d.exponent then 1 / 0
  else if 0 ≤ d.exponent then digits * powerOfTen d.exponent.toNat
  else if -308 ≤ d.exponent then digits / powerOfTen (-d.exponent).toNat
  else digits / powerOfTen 308 / powerOfTen (-d.exponent - 308).toNat

/-! ## Signed results -/

/-- The bits of a magnitude with the sign of the number. Zero has a sign too. -/
def signed (n : Numeral) (magnitude : Float) : UInt64 :=
  if n.isNegative then magnitude.toBits ||| 0x8000000000000000 else magnitude.toBits

/-- The bits of the number of double precision nearest to the number. -/
def nearestBits (n : Numeral) : UInt64 := n.signed (nearest n.decimal)

/-- The bits of the number as it is read in steps. -/
def steppedBits (n : Numeral) : UInt64 := n.signed (scaled n.truncated)

end Numeral

end ForeignBindings
