/-!
Doubles as exact numbers: a finite double is a sign, a whole number and a
power of two. The module also rounds a quotient of whole numbers to the
nearest double, which is how a decimal is read.
-/
namespace Peg.Decimal

/-- The power `2 ^ n`. -/
def pow2 (n : Nat) : Nat :=
  Nat.pow 2 n

/-- The power `10 ^ n`. -/
def pow10 (n : Nat) : Nat :=
  Nat.pow 10 n

/-- A double taken apart. -/
inductive Parts where
  | nan
  | infinity (negative : Bool)
  /-- The number `mantissa · 2 ^ (exponent - 1074)`. -/
  | finite (negative : Bool) (mantissa exponent : Nat)
deriving DecidableEq, Repr

/-- The parts of the double with these bits. -/
def Parts.ofBits (bits : UInt64) : Parts :=
  let n := bits.toNat
  let negative := n / pow2 63 == 1
  let power := n / pow2 52 % pow2 11
  let fraction := n % pow2 52
  if power = 2047 then
    if fraction = 0 then .infinity negative else .nan
  else if power = 0 then .finite negative fraction 0
  else .finite negative (pow2 52 + fraction) (power - 1)

def Parts.ofFloat (x : Float) : Parts :=
  Parts.ofBits x.toBits

/-- The quotient `num / den`, rounded to the nearest whole number, an exact
half to the even neighbour. -/
def roundDiv (num den : Nat) : Nat :=
  let q := num / den
  let twice := 2 * (num % den)
  if twice < den then q
  else if den < twice then q + 1
  else if q % 2 = 0 then q else q + 1

/-- The exponent of two that `num / den` is measured in: the greatest that
keeps 53 binary digits before the point, and no less than the least of all
doubles. One more than needed is possible, and one less is not. -/
def scale (num den : Nat) : Int :=
  max (-1074) ((num.log2 : Int) - den.log2 - 53)

/-- `num / (den · 2 ^ e)`, rounded to the nearest whole number. -/
def roundScaled (num den : Nat) (e : Int) : Nat :=
  if 0 ≤ e then roundDiv num (den * pow2 e.toNat) else roundDiv (num * pow2 (-e).toNat) den

/-- The bits of the double nearest to `num / den` (`0 < den`), a half going to
the even mantissa, or nothing when it would be infinite. -/
def nearestBits? (num den : Nat) : Option Nat :=
  if num = 0 then some 0
  else
    let e := scale num den
    -- With 2 ^ 53 or more units the next greater scale has all the digits.
    let e := if pow2 53 ≤ num * pow2 (-e).toNat / (den * pow2 e.toNat) then e + 1 else e
    -- Adding the mantissa to the shifted exponent carries into it by itself.
    let bits := (e + 1074).toNat * pow2 52 + roundScaled num den e
    if bits < 2047 * pow2 52 then some bits else none

/-- The double of sign `negative` nearest to `num / den`, if it is finite. -/
def nearest? (negative : Bool) (num den : Nat) : Option Float :=
  (nearestBits? num den).map fun bits =>
    Float.ofBits (UInt64.ofNat (if negative then pow2 63 + bits else bits))

end Peg.Decimal
