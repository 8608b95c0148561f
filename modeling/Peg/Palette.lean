/-!
Terminal styling. A renderer picks a role and not a code: blue marks grammar
elements and object keys, green matched text, red failed attempts, and dim
punctuation and positions.
-/
namespace Peg

/-- The code of each role. A role with an empty code is not styled. -/
structure Palette where
  blue : String
  green : String
  red : String
  dim : String
  reset : String
deriving DecidableEq, Repr

namespace Palette

/-- The codes of an ANSI terminal. -/
def ansi : Palette where
  blue := "\x1b[34m"
  green := "\x1b[32m"
  red := "\x1b[31m"
  dim := "\x1b[2m"
  reset := "\x1b[0m"

/-- No styling at all. -/
def plain : Palette where
  blue := ""
  green := ""
  red := ""
  dim := ""
  reset := ""

/-- Styling for a terminal when `enabled`, and none otherwise. -/
def ofEnabled (enabled : Bool) : Palette :=
  if enabled then ansi else plain

instance : Inhabited Palette := ⟨plain⟩

/-- Whether some code is not empty. -/
def isEnabled (p : Palette) : Bool :=
  p != plain

/-- The text between `code` and the reset code, or the text alone when `code`
is empty. -/
def paint (p : Palette) (code : String) (text : List Char) : List Char :=
  if code = "" then text else code.toList ++ text ++ p.reset.toList

end Palette

end Peg
