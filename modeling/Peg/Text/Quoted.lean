import Peg.Unicode.GraphemeExtend
import Peg.Unicode.Hidden
import Peg.Unicode.Ignorable

/-!
Text in quotes for people to read: every character that would not show, or
would join its neighbour, is written as an escape.
-/
namespace Peg

/-- The hexadecimal digits of `n` in lower case, at least one. -/
def hexDigits (n : Nat) : List Char :=
  Nat.toDigits 16 n

namespace Quoted

/-- Whether a character is written by its number. -/
def isObscure (c : Char) : Bool :=
  Unicode.isHidden c || Unicode.extendsGrapheme c || Unicode.isIgnorable c

/-- One character between the quotes `mark`. -/
def escape (mark c : Char) : List Char :=
  match c with
  | '\x00' => ['\\', '0']
  | '\t' => ['\\', 't']
  | '\r' => ['\\', 'r']
  | '\n' => ['\\', 'n']
  | '\\' => ['\\', '\\']
  | c =>
    if c = mark then ['\\', c]
    else if isObscure c then ['\\', 'u', '\x7b'] ++ hexDigits c.toNat ++ ['\x7d']
    else [c]

/-- A text in double quotes. -/
def text (s : String) : String :=
  String.ofList ('"' :: (s.toList.flatMap (escape '"') ++ ['"']))

/-- A character in single quotes. -/
def char (c : Char) : String :=
  String.ofList ('\'' :: (escape '\'' c ++ ['\'']))

end Quoted

end Peg
