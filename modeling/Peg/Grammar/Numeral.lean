import Peg.Decimal.Read
import Peg.Grammar.Combinator

/-!
Elements for numbers: the numerals that are looked for, as patterns, and the
typed leaves that read them. Numerals may have digits of any script, while
only those of ASCII can be read.
-/
namespace Peg

open Regex (Pattern)

namespace Numeral

/-- A plus or minus sign, or nothing. -/
def sign : Pattern :=
  .times 0 (some 1) true (.set .characters ⟨[(0x2B, 0x2B), (0x2D, 0x2D)]⟩)

/-- One or more decimal digits of any script. -/
def digits : Pattern :=
  .times 1 none true (.set .characters Regex.digitChars)

/-- The numerals of whole numbers. -/
def whole : Pattern :=
  .seq sign digits

/-- A decimal point and digits before or behind it, or digits alone. -/
def magnitude : Pattern :=
  .alt
    (.seq digits (.times 0 (some 1) true
      (.seq (.literal ['.']) (.times 0 none true (.set .characters Regex.digitChars)))))
    (.seq (.literal ['.']) digits)

/-- A power of ten, or nothing. -/
def power : Pattern :=
  .times 0 (some 1) true
    (.seq (.set .characters ⟨[(0x45, 0x45), (0x65, 0x65)]⟩) (.seq sign digits))

/-- The numerals of decimal numbers. -/
def decimal : Pattern :=
  .seq sign (.seq magnitude power)

end Numeral

namespace Element

/-- A whole number. One that is no signed number of 64 bits does not match. -/
def integer : Element :=
  ofKind (.convert (ofRegex (.ofPattern "[-+]?\\d+" Numeral.whole (by decide))) (some "integer")
    fun text => (Decimal.readInteger? text.toList).map .integer)

/-- A decimal number. One that is beyond all doubles does not match. -/
def double : Element :=
  ofKind (.convert
    (ofRegex (.ofPattern "[-+]?(?:\\d+(?:\\.\\d*)?|\\.\\d+)(?:[eE][-+]?\\d+)?" Numeral.decimal
      (by decide)))
    (some "double") fun text => (Decimal.readDouble? text.toList).map .float)

end Element

end Peg
