import ForeignBindings.Decimal.Shortest

/-!
# Decimal numbers in messages

A message shows a decimal number with the fewest digits that read back as the same number. A
document format decides up to which size the digits are written out; beyond it, an exponent is
used.
-/

namespace ForeignBindings.Decimal

/-- The decisions of a document format on how numbers are shown. The digits are written out for
numbers below `10 ^ most` and from `10 ^ least` on; other numbers have an exponent. -/
structure Style where
  least : Int
  most : Int
  /-- Where a number goes that has two nearest shortest decimals. -/
  tie : Tie
  /-- Whether a plus sign stands before an exponent that is not negative. -/
  marksPlus : Bool
deriving Repr, DecidableEq

/-- Digits with the point after the first `point` of them. -/
def pointed (digits : List Char) (point : Int) : List Char :=
  if point ≤ 0 then '0' :: '.' :: List.replicate (-point).toNat '0' ++ digits
  else
    let whole := digits.take point.toNat
    let fraction := digits.drop point.toNat
    whole ++ List.replicate (point.toNat - whole.length) '0' ++
      '.' :: if fraction.isEmpty then ['0'] else fraction

/-- Digits with an exponent. -/
def withExponent (digits : List Char) (exponent : Int) (marksPlus : Bool) : List Char :=
  (match digits with
    | first :: c :: rest => first :: '.' :: c :: rest
    | _ => digits) ++
    'e' :: (if marksPlus && 0 ≤ exponent then ['+'] else []) ++ (toString exponent).toList

def render (d : Decimal) (style : Style) : List Char :=
  let digits := Nat.toDigits 10 d.digits
  let point := digits.length + d.exponent
  if d.digits = 0 then "0.0".toList
  else if style.least < point ∧ point ≤ style.most then pointed digits point
  else withExponent digits (point - 1) style.marksPlus

/-- The text of a number of double precision, given by its bits. -/
def textOfBits (style : Style) (bits : UInt64) : String :=
  if isSpecial bits then
    if bits &&& 0xFFFFFFFFFFFFF ≠ 0 then "NaN"
    else if isNegative bits then "-inf" else "inf"
  else
    String.ofList
      ((if isNegative bits then ['-'] else []) ++ (shortest style.tie bits).render style)

end ForeignBindings.Decimal
