import Peg.Decimal.Binary

/-!
Reading numerals written with ASCII digits: whole numbers of 64 bits, and
decimals, which become the nearest double.
-/
namespace Peg.Decimal

/-- The number that a list of digits stands for. -/
def ofDigits (digits : List Char) : Nat :=
  digits.foldl (fun n c => 10 * n + (c.toNat - '0'.toNat)) 0

/-- Takes an optional sign off a numeral; the flag says whether it was a minus. -/
def splitSign : List Char → Bool × List Char
  | '-' :: rest => (true, rest)
  | '+' :: rest => (false, rest)
  | rest => (false, rest)

/-- The digits at the front, and what follows them. -/
def splitDigits (cs : List Char) : List Char × List Char :=
  (cs.takeWhile Char.isDigit, cs.dropWhile Char.isDigit)

/-- A numeral of an optional sign and at least one digit, if its value is a
signed number of 64 bits. -/
def readInteger? (cs : List Char) : Option Int :=
  let (negative, digits) := splitSign cs
  if digits ≠ [] ∧ digits.all Char.isDigit then
    let n : Int := if negative then -(ofDigits digits : Int) else ofDigits digits
    if Int64.minValue.toInt ≤ n ∧ n ≤ Int64.maxValue.toInt then some n else none
  else none

/-- The exponent at the end of a numeral: nothing, or a letter, an optional
sign and at least one digit. -/
def readExponent? : List Char → Option Int
  | [] => some 0
  | e :: rest =>
    let (negative, digits) := splitSign rest
    if (e = 'e' ∨ e = 'E') ∧ digits ≠ [] ∧ digits.all Char.isDigit then
      some (if negative then -(ofDigits digits : Int) else ofDigits digits)
    else none

/-- The digits behind the point, and what follows them. -/
def splitFraction : List Char → List Char × List Char
  | '.' :: rest => splitDigits rest
  | rest => ([], rest)

/-- The double nearest to `digits · 10 ^ exponent`, if it is finite. Exponents
so far out that the result is infinite or zero in any case are cut short. -/
def scaled? (negative : Bool) (digits : List Char) (exponent : Int) : Option Float :=
  let e := max (-(digits.length + 400 : Int)) (min 400 exponent)
  nearest? negative (ofDigits digits * pow10 e.toNat) (pow10 (-e).toNat)

/-- A decimal with an optional sign, point and exponent, and at least one digit
before the exponent, as the nearest double if that is finite. -/
def readDouble? (cs : List Char) : Option Float :=
  let (negative, body) := splitSign cs
  let (whole, rest) := splitDigits body
  let (fraction, tail) := splitFraction rest
  match readExponent? tail with
  | none => none
  | some exponent =>
    if whole ++ fraction = [] then none
    else scaled? negative (whole ++ fraction) (exponent - fraction.length)

end Peg.Decimal
