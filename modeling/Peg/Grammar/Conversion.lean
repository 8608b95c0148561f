import Peg.Text.Cursor
import Peg.Value.Basic

/-!
A stock of conversions for typed leaves.
-/
namespace Peg.Conversion

/-- The text itself. -/
def text (s : String) : Option Value :=
  some (.text s)

/-- The number of bytes of the text. -/
def length (s : String) : Option Value :=
  some (.integer (byteLength s.toList))

/-- One for "true", zero for "false", and no value for any other text. -/
def truth (s : String) : Option Value :=
  if s = "true" then some (.integer 1) else if s = "false" then some (.integer 0) else none

/-- The text, unless it is empty. -/
def nonempty (s : String) : Option Value :=
  if s = "" then none else some (.text s)

/-- The characters of the text, one by one. -/
def letters (s : String) : Option Value :=
  some (.list (s.toList.map fun c => .text (String.singleton c)))

/-- An object with the text as its only field. -/
def object (s : String) : Option Value :=
  some (.object [("text", .text s)])

/-- Null for every text. -/
def null (_ : String) : Option Value :=
  some .null

/-- No value for any text. -/
def never (_ : String) : Option Value :=
  none

end Peg.Conversion
