import Peg.Unicode.Alphabetic
import Peg.Unicode.Blank
import Peg.Unicode.Number

/-!
Named classes of characters, and sets of such classes.
-/
namespace Peg

/-- A named class of characters. -/
inductive CharClass where
  | blank
  | newline
  | digit
  | letter
  | alphanumeric
  | punctuation
deriving DecidableEq, Repr

namespace CharClass

/-- All classes, in the order in which they are listed in text. -/
def all : List CharClass :=
  [blank, newline, digit, letter, alphanumeric, punctuation]

/-- The word for a class. -/
def name : CharClass → String
  | blank => "Whitespace"
  | newline => "Newline"
  | digit => "DecimalDigit"
  | letter => "Letter"
  | alphanumeric => "Alphanumeric"
  | punctuation => "Punctuation"

/-- The characters that end a line: line feed, vertical tab, form feed,
carriage return, next line, line separator and paragraph separator. -/
def isNewline (c : Char) : Bool :=
  let n := c.toNat
  (0x0A ≤ n && n ≤ 0x0D) || n == 0x85 || n == 0x2028 || n == 0x2029

/-- The ASCII characters that are neither letters, digits, blanks nor controls. -/
def isPunctuation (c : Char) : Bool :=
  let n := c.toNat
  (0x21 ≤ n && n ≤ 0x2F) || (0x3A ≤ n && n ≤ 0x40) || (0x5B ≤ n && n ≤ 0x60)
    || (0x7B ≤ n && n ≤ 0x7E)

/-- Whether a character belongs to the class. Digits and punctuation are
ASCII; blanks and letters are those of all scripts, and an alphanumeric
character is a letter or a number of any script. -/
def contains : CharClass → Char → Bool
  | blank, c => Unicode.isBlank c
  | newline, c => isNewline c
  | digit, c => c.isDigit
  | letter, c => Unicode.isAlphabetic c
  | alphanumeric, c => Unicode.isAlphabetic c || Unicode.isNumber c
  | punctuation, c => isPunctuation c

end CharClass

/-- A set of named classes. -/
structure ClassSet where
  blank : Bool := false
  newline : Bool := false
  digit : Bool := false
  letter : Bool := false
  alphanumeric : Bool := false
  punctuation : Bool := false
deriving DecidableEq, Repr, Inhabited

namespace ClassSet

/-- The set without classes. -/
def empty : ClassSet := {}

def single : CharClass → ClassSet
  | .blank => { blank := true }
  | .newline => { newline := true }
  | .digit => { digit := true }
  | .letter => { letter := true }
  | .alphanumeric => { alphanumeric := true }
  | .punctuation => { punctuation := true }

def has (s : ClassSet) : CharClass → Bool
  | .blank => s.blank
  | .newline => s.newline
  | .digit => s.digit
  | .letter => s.letter
  | .alphanumeric => s.alphanumeric
  | .punctuation => s.punctuation

def union (s t : ClassSet) : ClassSet where
  blank := s.blank || t.blank
  newline := s.newline || t.newline
  digit := s.digit || t.digit
  letter := s.letter || t.letter
  alphanumeric := s.alphanumeric || t.alphanumeric
  punctuation := s.punctuation || t.punctuation

/-- The classes of the set, in their fixed order. -/
def toList (s : ClassSet) : List CharClass :=
  CharClass.all.filter s.has

def isEmpty (s : ClassSet) : Bool :=
  s == empty

/-- Whether a character belongs to one of the classes. -/
def contains (s : ClassSet) (c : Char) : Bool :=
  (s.blank && CharClass.blank.contains c) || (s.newline && CharClass.newline.contains c)
    || (s.digit && CharClass.digit.contains c) || (s.letter && CharClass.letter.contains c)
    || (s.alphanumeric && CharClass.alphanumeric.contains c)
    || (s.punctuation && CharClass.punctuation.contains c)

/-- Entries between braces, divided by commas. -/
def braced (entries : List String) : String :=
  "\x7b" ++ ", ".intercalate entries ++ "\x7d"

/-- The names of the classes between braces. -/
def render (s : ClassSet) : String :=
  braced (s.toList.map CharClass.name)

end ClassSet

end Peg
