import Peg.Regex.Expr
import Peg.Unicode.Alphabetic
import Peg.Unicode.Blank
import Peg.Unicode.CaseFold
import Peg.Unicode.Greek
import Peg.Unicode.Letter
import Peg.Unicode.Mark
import Peg.Unicode.Newcomer
import Peg.Unicode.Number
import Peg.Unicode.Uppercase

/-!
The sets of characters that classes stand for, under the flags in force.

Properties are those of edition 16 of the Unicode standard. Without the Unicode
flag a class describes bytes, and as a match has to be whole characters, a
class that holds a byte beyond ASCII is refused.
-/
namespace Peg.Regex

open Unicode (CodeSet)

/-- The flags in force at a place of the pattern. -/
structure Flags where
  caseless : Bool := false
  multiline : Bool := false
  dotAll : Bool := false
  swapGreed : Bool := false
  unicode : Bool := true
  crlf : Bool := false
deriving DecidableEq, Repr

/-- The flags after a change. -/
def Flags.apply (f : Flags) (ch : FlagChange) : Flags where
  caseless := (ch.state? .caseless).getD f.caseless
  multiline := (ch.state? .multiline).getD f.multiline
  dotAll := (ch.state? .dotAll).getD f.dotAll
  swapGreed := (ch.state? .swapGreed).getD f.swapGreed
  unicode := (ch.state? .unicode).getD f.unicode
  crlf := (ch.state? .crlf).getD f.crlf

/-- The decimal digits of all scripts. -/
def digitChars : CodeSet :=
  Unicode.decimalDigits.established

def alphabeticChars : CodeSet :=
  Unicode.alphabetics.established

def markChars : CodeSet :=
  Unicode.marks.established

def letterChars : CodeSet :=
  Unicode.letters.established

def uppercaseChars : CodeSet :=
  Unicode.uppercaseLetters.established

def numberChars : CodeSet :=
  Unicode.numbers.established

/-- The letters, marks, digits and connectors that words are made of. -/
def wordChars : CodeSet :=
  CodeSet.ofSpans (alphabeticChars.spans ++ markChars.spans ++ digitChars.spans
    ++ Unicode.connectors.spans ++ [(0x200C, 0x200D)])

/-- The word characters of ASCII. -/
def asciiWordChars : CodeSet :=
  ⟨[(0x30, 0x39), (0x41, 0x5A), (0x5F, 0x5F), (0x61, 0x7A)]⟩

/-- The ASCII characters of a named class. -/
def Posix.set : Posix → CodeSet
  | alnum => ⟨[(0x30, 0x39), (0x41, 0x5A), (0x61, 0x7A)]⟩
  | alpha => ⟨[(0x41, 0x5A), (0x61, 0x7A)]⟩
  | ascii => ⟨[(0x00, 0x7F)]⟩
  | blank => ⟨[(0x09, 0x09), (0x20, 0x20)]⟩
  | cntrl => ⟨[(0x00, 0x1F), (0x7F, 0x7F)]⟩
  | digit => ⟨[(0x30, 0x39)]⟩
  | graph => ⟨[(0x21, 0x7E)]⟩
  | lower => ⟨[(0x61, 0x7A)]⟩
  | print => ⟨[(0x20, 0x7E)]⟩
  | punct => ⟨[(0x21, 0x2F), (0x3A, 0x40), (0x5B, 0x60), (0x7B, 0x7E)]⟩
  | space => ⟨[(0x09, 0x0D), (0x20, 0x20)]⟩
  | upper => ⟨[(0x41, 0x5A)]⟩
  | word => asciiWordChars
  | xdigit => ⟨[(0x30, 0x39), (0x41, 0x46), (0x61, 0x66)]⟩

/-- The characters of a one-letter class. -/
def Shorthand.set (unicode : Bool) : Shorthand → CodeSet
  | digit => if unicode then digitChars else Posix.digit.set
  | space => if unicode then Unicode.blanks else Posix.space.set
  | word => if unicode then wordChars else asciiWordChars

/-- A property name without case, blanks, hyphens, low lines, the word "is" in
front and characters beyond ASCII, none of which tells names apart. -/
def looseName (name : String) : String :=
  let cs := name.toList
  let cs := match cs with
    | a :: b :: rest =>
      if (a == 'i' || a == 'I') && (b == 's' || b == 'S') then rest else cs
    | _ => cs
  String.ofList ((cs.filter fun c =>
    c.toNat < 128 && c != ' ' && c != '_' && c != '-').map Char.toLower)

/-- The characters of a general category. -/
def categorySet? : String → Option CodeSet
  | "l" | "letter" => some letterChars
  | "lu" | "uppercaseletter" => some uppercaseChars
  | "n" | "number" => some numberChars
  | "nd" | "decimalnumber" | "digit" => some digitChars
  | "m" | "mark" | "combiningmark" => some markChars
  | "pc" | "connectorpunctuation" => some Unicode.connectors
  | "any" => some ⟨[(0, CodeSet.last)]⟩
  | "ascii" => some Posix.ascii.set
  | _ => none

/-- The characters of a script. -/
def scriptSet? : String → Option CodeSet
  | "greek" | "grek" => some Unicode.greek
  | _ => none

/-- The characters of a property with two values, yes and no. -/
def binarySet? : String → Option CodeSet
  | "alphabetic" | "alpha" => some alphabeticChars
  | "whitespace" | "wspace" | "space" => some Unicode.blanks
  | _ => none

/-- The characters with a property, if it is known. -/
def Property.set? : Property → Option CodeSet
  | named name =>
    let name := looseName name
    (binarySet? name).or ((categorySet? name).or (scriptSet? name))
  | valued name value =>
    match looseName name with
    | "gc" | "generalcategory" => categorySet? (looseName value)
    | "sc" | "script" => scriptSet? (looseName value)
    | _ => none

namespace Flags

/-- A set with all case variants, if letters match in either case. -/
def fold (f : Flags) (s : CodeSet) : CodeSet :=
  if f.caseless then
    if f.unicode then s.closeUnderCase else s.closeUnderAsciiCase
  else s

/-- A set or its complement. The complement of a set of bytes always holds
bytes beyond ASCII and is refused. -/
def negate? (f : Flags) (negated : Bool) (s : CodeSet) : Option CodeSet :=
  if negated then
    if f.unicode then some s.complement else none
  else some s

/-- A character in a class. Only ASCII characters are single bytes. -/
def single? (f : Flags) (c : Char) : Option CodeSet :=
  if f.unicode || c.toNat < 128 then some (CodeSet.single c) else none

def posix? (f : Flags) (negated : Bool) (kind : Posix) : Option CodeSet :=
  f.negate? negated (f.fold kind.set)

def property? (f : Flags) (negated : Bool) (p : Property) : Option CodeSet :=
  if f.unicode then p.set?.bind fun s => f.negate? negated (f.fold s) else none

def shorthand? (f : Flags) (negated : Bool) (kind : Shorthand) : Option CodeSet :=
  f.negate? negated (kind.set f.unicode)

end Flags

/-- Two sets combined. -/
def SetOp.apply : SetOp → CodeSet → CodeSet → CodeSet
  | intersection, s, t => s.inter t
  | difference, s, t => s.diff t
  | symmetricDifference, s, t => s.symmDiff t

/-- The set that a class stands for, if it is one. Case variants are added
before a set is negated or combined. -/
def ClassExpr.set? (f : Flags) : ClassExpr → Option CodeSet
  | empty => some CodeSet.empty
  | literal c => f.single? c
  | range lo hi =>
    if f.unicode || (lo.toNat < 128 && hi.toNat < 128) then some ⟨[(lo.toNat, hi.toNat)]⟩
    else none
  | posix negated kind => f.posix? negated kind
  | property negated p => f.property? negated p
  | shorthand negated kind => f.shorthand? negated kind
  | bracket negated inner => do f.negate? negated (f.fold (← inner.set? f))
  | union first rest => return (← first.set? f).union (← rest.set? f)
  | op kind left right => return kind.apply (f.fold (← left.set? f)) (f.fold (← right.set? f))

end Peg.Regex
