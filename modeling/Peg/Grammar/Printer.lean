import Peg.Grammar.Element
import Peg.Text.Quoted

/-!
Elements in text, close to how they are put together: literals in quotes,
patterns between slashes, `(a + b)` for a sequence, `[a | b]` for a choice, and
the usual marks behind what is repeated.
-/
namespace Peg

/-- The bounds of a repetition between braces. -/
def boundsText (min : Nat) : Option Nat → String
  | some max =>
    if max = min then "\x7b" ++ toString min ++ "\x7d"
    else "\x7b" ++ toString min ++ "," ++ toString max ++ "\x7d"
  | none => "\x7b" ++ toString min ++ ",\x7d"

/-- The mark of a repetition. -/
def repetitionMark : Nat → Option Nat → String
  | 0, some 1 => "?"
  | 0, none => "*"
  | 1, none => "+"
  | min, max => boundsText min max

/-- The bounds of a separated list, where no bounds leave no trace. -/
def separatedMark : Nat → Option Nat → String
  | 0, none => ""
  | min, max => boundsText min max

/-- A text with the marks of its decorations. -/
def Decor.around (d : Decor) (body : String) : String :=
  let body := if d.flattened then "flat(" ++ body ++ ")" else body
  let body := if d.stripped then "strip(" ++ body ++ ")" else body
  match d.id with
  | some id => body ++ "@" ++ id
  | none => body

namespace Element

mutual

/-- The element in text. -/
def display : Element → String
  | node decor kind => decor.around (displayKind kind)

/-- A kind in text, without decorations of its own. -/
def displayKind : Kind Element → String
  | .literal text => Quoted.text text
  | .pattern regex .text => regex.display
  | .pattern regex .groups => "groups(" ++ regex.display ++ ")"
  | .sequence children => "(" ++ " + ".intercalate (displayAll children) ++ ")"
  | .alternation children => "[" ++ " | ".intercalate (displayAll children) ++ "]"
  | .repetition child min max => child.display ++ repetitionMark min max
  | .separated item separator min max =>
    "delimited(" ++ item.display ++ ", " ++ separator.display ++ ")" ++ separatedMark min max
  | .convert _ (some name) _ => name
  | .convert child none _ => "convert(" ++ child.display ++ ")"
  | .endOfInput => "$"
  | .rule _ name _ => "<" ++ name ++ ">"
  | .backref name _ => "<" ++ name ++ ">"

/-- Each of several elements in text. -/
def displayAll : List Element → List String
  | [] => []
  | e :: rest => e.display :: displayAll rest

end

def inspect (e : Element) : String :=
  "Element(" ++ e.display ++ ")"

/-- What a message calls the element: its label if it has one. -/
def label (e : Element) : String :=
  match e.decor.id, e.kind with
  | some id, _ => id
  | none, .endOfInput => "end of input"
  | none, kind => displayKind kind

end Element

end Peg
