import Peg.Decimal.Binary

/-!
The fewest decimal digits that read back as the same double, and of those the
digits nearest to it.

A decimal reads back exactly when it lies in the interval of reals that round
to the double. For one digit, two digits and so on, the two neighbours of the
double on the decimal grid are tested against that interval in whole numbers.
-/
namespace Peg.Decimal

/-- What happens to a double halfway between two decimals of equal length. -/
inductive Tie where
  | up
  | even
deriving DecidableEq, Repr

/-- The decimal number `digits · 10 ^ exponent`. -/
structure Digits where
  digits : Nat
  exponent : Int
deriving DecidableEq, Repr

/-- The interval of reals that round to a double, in units of a common
denominator: the double itself, the two ends, and whether the ends belong. -/
structure Interval where
  value : Nat
  low : Nat
  high : Nat
  den : Nat
  closed : Bool

/-- The interval of the double `mantissa · 2 ^ (exponent - 1074)`. The gap below
a power of two is half the gap above it. -/
def Interval.ofDouble (mantissa exponent : Nat) : Interval :=
  let unit := pow2 (exponent - 1076)
  let below := if mantissa = pow2 52 ∧ 0 < exponent then 1 else 2
  { value := 4 * mantissa * unit
    low := (4 * mantissa - below) * unit
    high := (4 * mantissa + 2) * unit
    den := pow2 (1076 - exponent)
    closed := mantissa % 2 = 0 }

/-- The interval with all its numbers multiplied by `10 ^ shift`. -/
def Interval.shift (i : Interval) (shift : Int) : Interval :=
  let up := pow10 shift.toNat
  { i with
    value := i.value * up
    low := i.low * up
    high := i.high * up
    den := i.den * pow10 (-shift).toNat }

/-- Whether the whole number `n` lies in the interval. -/
def Interval.holds (i : Interval) (n : Nat) : Bool :=
  let x := n * i.den
  if i.closed then i.low ≤ x && x ≤ i.high else i.low < x && x < i.high

/-- The whole number that stands for the interval, if one of the value's two
neighbours lies in it: the nearer of them if both do. -/
def Interval.pick? (tie : Tie) (i : Interval) : Option Nat :=
  let g := i.value / i.den
  let down := i.holds g
  let up := i.holds (g + 1)
  if down && up then
    -- Both neighbours read back, so the remainder decides which is nearer.
    let twice := 2 * (i.value % i.den)
    if twice < i.den then some g
    else if i.den < twice then some (g + 1)
    else if tie = .even ∧ g % 2 = 0 then some g else some (g + 1)
  else if down then some g
  else if up then some (g + 1)
  else none

/-- The number of decimal digits before the point of the interval's value, not
positive for a value below one tenth. -/
def Interval.magnitude (i : Interval) : Int :=
  ((Nat.toDigits 10 (i.value * pow10 330 / i.den)).length : Int) - 330

/-- The first decimal of `n`, `n + 1`, … digits that lies in the interval of a
number of this magnitude. -/
def Interval.shortestFrom (tie : Tie) (i : Interval) (magnitude : Int) (n : Nat) : Nat → Digits
  | 0 => ⟨i.value / i.den, 0⟩
  | more + 1 =>
    let shift := (n : Int) - magnitude
    match (i.shift shift).pick? tie with
    | some digits => ⟨digits, -shift⟩
    | none => i.shortestFrom tie magnitude (n + 1) more

/-- The decimal without the zeros at its end. -/
def Digits.trim (d : Digits) : Nat → Digits
  | 0 => d
  | fuel + 1 =>
    if d.digits ≠ 0 ∧ d.digits % 10 = 0 then
      Digits.trim ⟨d.digits / 10, d.exponent + 1⟩ fuel
    else d

/-- The shortest decimal that reads back as `mantissa · 2 ^ (exponent - 1074)`.
Seventeen digits always suffice. -/
def shortest (tie : Tie) (mantissa exponent : Nat) : Digits :=
  if mantissa = 0 then ⟨0, 0⟩
  else
    let i := Interval.ofDouble mantissa exponent
    (i.shortestFrom tie i.magnitude 1 17).trim 17

end Peg.Decimal
