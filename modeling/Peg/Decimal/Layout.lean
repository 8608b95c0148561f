import Peg.Decimal.Shortest

/-!
Doubles in text: the shortest digits, laid out by a record of the decisions
that formats differ in.
-/
namespace Peg.Decimal

/-- How doubles are written. -/
structure Layout where
  /-- The least and the greatest power of ten of the first digit that are
  written without an exponent. -/
  least : Int
  greatest : Int
  /-- Whether an exponent that is not negative has a sign. -/
  plus : Bool
  tie : Tie
  nan : String
  infinity : String
  negativeInfinity : String

/-- Digits with the point after the first `point` of them, filled with zeros
on either side, and at least one digit behind the point. -/
def positional (digits : List Char) (point : Int) : List Char :=
  if point ≤ 0 then '0' :: '.' :: (List.replicate (-point).toNat '0' ++ digits)
  else
    let whole := point.toNat
    if digits.length ≤ whole then
      digits ++ List.replicate (whole - digits.length) '0' ++ ['.', '0']
    else digits.take whole ++ '.' :: digits.drop whole

/-- Digits with the point after the first one, and a power of ten. -/
def scientific (plus : Bool) (digits : List Char) (power : Int) : List Char :=
  let mantissa := match digits with
    | [] => []
    | [d] => [d]
    | d :: rest => d :: '.' :: rest
  let sign := if power < 0 then ['-'] else if plus then ['+'] else []
  mantissa ++ 'e' :: (sign ++ Nat.toDigits 10 power.natAbs)

/-- A decimal in the given layout. -/
def Layout.writeDigits (layout : Layout) (d : Digits) : List Char :=
  let digits := Nat.toDigits 10 d.digits
  let point := d.exponent + digits.length
  if d.digits = 0 ∨ (layout.least ≤ point - 1 ∧ point - 1 ≤ layout.greatest) then
    positional digits point
  else scientific layout.plus digits (point - 1)

/-- A double in the given layout. -/
def Layout.write (layout : Layout) (x : Float) : List Char :=
  match Parts.ofFloat x with
  | .nan => layout.nan.toList
  | .infinity false => layout.infinity.toList
  | .infinity true => layout.negativeInfinity.toList
  | .finite negative mantissa exponent =>
    let body := layout.writeDigits (shortest layout.tie mantissa exponent)
    if negative then '-' :: body else body

end Peg.Decimal
