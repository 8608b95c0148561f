import Peg.Grammar.Element

/-!
Constructors of elements.

`plus` and `orElse` extend a sequence or choice on their left that has no
decorations, so that a chain of them makes one flat node.
-/
namespace Peg.Element

/-- Matches a text exactly. -/
def literal (text : String) : Element :=
  ofKind (.literal text)

/-- Matches a regular expression and gives the whole match. -/
def ofRegex (regex : Regex) : Element :=
  ofKind (.pattern regex .text)

/-- Matches a regular expression and gives its groups. -/
def groupsOf (regex : Regex) : Element :=
  ofKind (.pattern regex .groups)

def sequence (children : List Element) : Element :=
  ofKind (.sequence children)

def alternation (children : List Element) : Element :=
  ofKind (.alternation children)

def repetition (child : Element) (min : Nat) (max : Option Nat) : Element :=
  ofKind (.repetition child min max)

def optional (child : Element) : Element :=
  repetition child 0 (some 1)

def oneOrMore (child : Element) : Element :=
  repetition child 1 none

def zeroOrMore (child : Element) : Element :=
  repetition child 0 none

/-- Matches where nothing but characters of the skip set follows. -/
def endOfInput : Element :=
  ofKind .endOfInput

/-- A typed leaf without a name. -/
def convert (child : Element) (f : String → Option Value) : Element :=
  ofKind (.convert child none f)

/-- Items between separators, within bounds on the items. -/
def separatedBy (separator item : Element) (min : Nat) (max : Option Nat) : Element :=
  ofKind (.separated item separator min max)

/-- The separator of lists that name none. -/
def comma : Element :=
  (literal ",").strip

/-- A sequence that ends in `b`. -/
def plus (a b : Element) : Element :=
  sequence ((if a.isPlainSequence then a.children else [a]) ++ [b])

/-- A choice whose last resort is `b`. -/
def orElse (a b : Element) : Element :=
  alternation ((if a.isPlainAlternation then a.children else [a]) ++ [b])

end Peg.Element
