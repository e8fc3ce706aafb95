import ForeignBindings.Decimal.Numeral
import ForeignBindings.Decimal.Text
import ForeignBindings.Document.Value
import ForeignBindings.Text.Digits

/-!
# Numbers, truth values and dates in a configuration document

A value without quotation marks is one word. Whole numbers come in four bases, decimal numbers
have a fraction or an exponent or are one of the words for infinity and no number, and dates and
times have fixed places.
-/

namespace ForeignBindings.Document.Toml
open Text

/-- How messages show decimal numbers of such a document: digit by digit, whatever their size. -/
def shownDecimals : Decimal.Style := ⟨-1000, 1000, .up, false⟩

/-! ## Numbers -/

/-- Takes the underscores out of a run of digits. Each must stand between two digits. -/
def joinDigits (isDigit : Char → Bool) : List Char → Option (List Char)
  | [] => none
  | [c] => if isDigit c then some [c] else none
  | c :: '_' :: d :: cs =>
    if isDigit c && isDigit d then (joinDigits isDigit (d :: cs)).map (c :: ·) else none
  | c :: cs => if isDigit c then (joinDigits isDigit cs).map (c :: ·) else none

/-- The whole number that a run of digits spells in a base. -/
def wholeNumber? (base : Nat) (cs : List Char) : Option Nat := do
  digitsOnto base 0 (← joinDigits (digitValue · < base) cs)

/-- A whole number as a value, in the narrowest width that holds it. There are none wider than 128
bits. -/
def valueOfInt? (i : Int) : Option Value :=
  if -Int.pow 2 63 ≤ i ∧ i < Int.pow 2 63 then some (.integer (Int64.ofInt i))
  else if 0 ≤ i ∧ i < Int.pow 2 64 then some (.natural i.toNat.toUInt64)
  else if -Int.pow 2 127 ≤ i ∧ i < Int.pow 2 128 then some (.wide i)
  else none

def splitSign : List Char → Bool × List Char
  | '-' :: cs => (true, cs)
  | '+' :: cs => (false, cs)
  | cs => (false, cs)

/-- Whether digits are written without needless zeros in front. -/
def hasNoLeadingZero : List Char → Bool
  | '0' :: _ :: _ => false
  | _ => true

/-- Reads a whole number. A base other than ten is marked in front and takes no sign. -/
def integer? : List Char → Option Value
  | '0' :: 'x' :: cs => do valueOfInt? (← wholeNumber? 16 cs)
  | '0' :: 'o' :: cs => do valueOfInt? (← wholeNumber? 8 cs)
  | '0' :: 'b' :: cs => do valueOfInt? (← wholeNumber? 2 cs)
  | cs => do
    let (isNegative, digits) := splitSign cs
    guard (hasNoLeadingZero digits)
    let n ← wholeNumber? 10 digits
    valueOfInt? (if isNegative then -n else n)

/-- Splits an exponent off, which is zero if there is none. -/
def splitExponent? (cs : List Char) : Option (List Char × Int) :=
  let isMark := fun c => c == 'e' || c == 'E'
  match cs.dropWhile (!isMark ·) with
  | [] => some (cs, 0)
  | _ :: exponent => do
    let (isNegative, digits) := splitSign exponent
    let n ← wholeNumber? 10 digits
    return (cs.takeWhile (!isMark ·), if isNegative then -n else n)

/-- Reads a decimal number with a fraction or an exponent. A number that rounds to infinity is a
fault. -/
def decimal? (cs : List Char) : Option Value := do
  let (isNegative, magnitude) := splitSign cs
  if magnitude = "inf".toList then
    return .decimal (if isNegative then "-inf" else "inf")
  else if magnitude = "nan".toList then return .decimal "NaN"
  else
    guard (magnitude.any fun c => c == '.' || c == 'e' || c == 'E')
    let (mantissa, exponent) ← splitExponent? magnitude
    let whole ← joinDigits Char.isDigit (mantissa.takeWhile (· != '.'))
    guard (hasNoLeadingZero whole)
    let fraction ←
      match mantissa.dropWhile (· != '.') with
      | [] => some []
      | _ :: digits => joinDigits Char.isDigit digits
    let number : Numeral := ⟨isNegative, whole.map digitValue, fraction.map digitValue, exponent⟩
    let bits := number.nearestBits
    guard (!Decimal.isSpecial bits)
    return .decimal (Decimal.textOfBits shownDecimals bits)

/-! ## Dates and times -/

/-- A number of a fixed count of digits at the front. -/
def fixedDigits? (count : Nat) (cs : List Char) : Option (Nat × List Char) := do
  let digits := cs.take count
  guard (digits.length = count ∧ digits.all Char.isDigit)
  return (← digitsOnto 10 0 digits, cs.drop count)

def daysIn (year month : Nat) : Nat :=
  if month = 2 then
    if year % 4 = 0 ∧ (year % 100 ≠ 0 ∨ year % 400 = 0) then 29 else 28
  else if month ∈ [4, 6, 9, 11] then 30
  else 31

def afterDate? (cs : List Char) : Option (List Char) := do
  let (year, cs) ← fixedDigits? 4 cs
  let cs ← ['-'].isPrefixOf? cs
  let (month, cs) ← fixedDigits? 2 cs
  let cs ← ['-'].isPrefixOf? cs
  let (day, cs) ← fixedDigits? 2 cs
  guard (1 ≤ month ∧ month ≤ 12 ∧ 1 ≤ day ∧ day ≤ daysIn year month)
  return cs

/-- What follows the fraction of a second at the front, if there is one. -/
def afterFraction? : List Char → Option (List Char)
  | '.' :: cs =>
    if cs.takeWhile Char.isDigit = [] then none else some (cs.dropWhile Char.isDigit)
  | cs => some cs

/-- What follows a time of day at the front. Seconds may be left out. -/
def afterTime? (cs : List Char) : Option (List Char) := do
  let (hour, cs) ← fixedDigits? 2 cs
  let cs ← [':'].isPrefixOf? cs
  let (minute, cs) ← fixedDigits? 2 cs
  guard (hour ≤ 23 ∧ minute ≤ 59)
  match cs with
  | ':' :: cs => do
    let (second, cs) ← fixedDigits? 2 cs
    guard (second ≤ 60)
    afterFraction? cs
  | cs => return cs

/-- Whether a text is an offset from universal time, or empty. -/
def isOffset (cs : List Char) : Bool :=
  match cs with
  | [] => true
  | ['Z'] | ['z'] => true
  | sign :: cs =>
    (sign == '+' || sign == '-') &&
      match fixedDigits? 2 cs with
      | some (hour, ':' :: rest) =>
        match fixedDigits? 2 rest with
        | some (minute, []) => hour ≤ 23 && minute ≤ 59
        | _ => false
      | _ => false

/-- Whether a word is a date, a time of day, or both. -/
def isDateTime (cs : List Char) : Bool :=
  match afterDate? cs with
  | some [] => true
  | some (mark :: time) =>
    (mark == 'T' || mark == 't' || mark == ' ') && ((afterTime? time).map isOffset).getD false
  | none => afterTime? cs == some []

/-! ## Words -/

def valueOfWord? (cs : List Char) : Option Value :=
  if cs = "true".toList then some (.bool true)
  else if cs = "false".toList then some (.bool false)
  else
    match integer? cs with
    | some v => some v
    | none =>
      match decimal? cs with
      | some v => some v
      | none => if isDateTime cs then some .dateTime else none

end ForeignBindings.Document.Toml
