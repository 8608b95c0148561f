import Peg.CharSet.Class
import Peg.Text.Quoted

/-!
Sets of characters, as the scanner uses them for runs and for skipping.

A set is flat (named classes and intervals), a complement, or a union. The
union of two flat sets is flat again, a complement of a complement is the set
itself, and a union that stands on the left of a union takes in the right
operand.
-/
namespace Peg

/-- A set of characters. -/
inductive CharSet where
  /-- Named classes and closed intervals. An interval whose ends are in the
  wrong order has no members. -/
  | flat (classes : ClassSet) (ranges : List (Char × Char))
  /-- The characters outside a set. -/
  | complement (inner : CharSet)
  /-- The characters in one of several sets. -/
  | anyOf (sets : List CharSet)

namespace CharSet

def empty : CharSet :=
  flat ClassSet.empty []

instance : Inhabited CharSet := ⟨empty⟩

def ofClass (c : CharClass) : CharSet :=
  flat (ClassSet.single c) []

/-- The characters that occur in a text. -/
def ofChars (text : String) : CharSet :=
  flat ClassSet.empty (text.toList.map fun c => (c, c))

/-- The characters from `lo` to `hi`. -/
def range (lo hi : Char) : CharSet :=
  flat ClassSet.empty [(lo, hi)]

/-- The blanks, which a scanner skips unless told otherwise. -/
def blanks : CharSet :=
  ofClass .blank

/-- Whether a character lies in a closed interval. -/
def inRange (c : Char) (r : Char × Char) : Bool :=
  r.1 ≤ c && c ≤ r.2

mutual

/-- Whether a character belongs to the set. -/
def contains : CharSet → Char → Bool
  | flat classes ranges, c => classes.contains c || ranges.any (inRange c)
  | complement inner, c => !inner.contains c
  | anyOf sets, c => someContains sets c

/-- Whether a character belongs to one of the sets. -/
def someContains : List CharSet → Char → Bool
  | [], _ => false
  | s :: rest, c => s.contains c || someContains rest c

end

/-- The characters of either set. -/
def union : CharSet → CharSet → CharSet
  | flat a ra, flat b rb => flat (a.union b) (ra ++ rb)
  | anyOf sets, t => anyOf (sets ++ [t])
  | s, t => anyOf [s, t]

/-- A union may be written with bars. -/
instance : OrOp CharSet := ⟨union⟩

/-- The characters outside the set. -/
def invert : CharSet → CharSet
  | complement inner => inner
  | s => complement s

mutual

/-- Whether the set is seen to be empty from its form: it has no classes and
only intervals without members. A complement never counts as empty. -/
def isEmpty : CharSet → Bool
  | flat classes ranges => classes.isEmpty && ranges.all fun r => !(r.1 ≤ r.2)
  | complement _ => false
  | anyOf sets => allEmpty sets

/-- Whether each of the sets is seen to be empty. -/
def allEmpty : List CharSet → Bool
  | [] => true
  | s :: rest => s.isEmpty && allEmpty rest

end

mutual

/-- Whether two sets have the same form. -/
def sameForm : CharSet → CharSet → Bool
  | flat a ra, flat b rb => a == b && ra == rb
  | complement s, complement t => sameForm s t
  | anyOf ss, anyOf ts => sameForms ss ts
  | _, _ => false

/-- Whether two lists of sets agree in form, member by member. -/
def sameForms : List CharSet → List CharSet → Bool
  | [], [] => true
  | s :: ss, t :: ts => sameForm s t && sameForms ss ts
  | _, _ => false

end

instance : BEq CharSet := ⟨sameForm⟩

/-- An interval in text: its two ends, or the one character it consists of. -/
def renderRange (r : Char × Char) : String :=
  if r.1 = r.2 then Quoted.char r.1 else Quoted.char r.1 ++ "..=" ++ Quoted.char r.2

mutual

/-- The set in text: classes and intervals between braces, a complement after
an exclamation mark, the members of a union divided by bars. -/
def render : CharSet → String
  | flat classes ranges =>
    ClassSet.braced (classes.toList.map CharClass.name ++ ranges.map renderRange)
  | complement inner => "!" ++ inner.render
  | anyOf sets => " | ".intercalate (renderAll sets)

/-- Each of the sets in text. -/
def renderAll : List CharSet → List String
  | [] => []
  | s :: rest => s.render :: renderAll rest

end

end CharSet

end Peg
