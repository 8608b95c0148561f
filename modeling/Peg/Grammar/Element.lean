import Peg.Regex.Basic
import Peg.Value.Basic

/-!
Grammar elements.

An element is a tree: a kind with its children, and decorations that shape the
result. The only thing that is not in the tree is where a back-reference
leads: it names the key of a rule, and whoever runs the grammar looks the rule
up among those that are still held. So a rule can be cut off from the
references to it, and such a reference dangles.
-/
namespace Peg

/-- What a pattern contributes to the result. -/
inductive Capture where
  /-- The text of the whole match. -/
  | text
  /-- An object of the groups, by name, or by number if no group has a name. -/
  | groups
deriving DecidableEq, Repr

/-- The decorations of an element. -/
structure Decor where
  /-- The element contributes nothing to the result. -/
  stripped : Bool := false
  /-- A list loses one level of nesting. -/
  flattened : Bool := false
  /-- A label for messages and for searches. -/
  id : Option String := none
deriving DecidableEq, Repr, Inhabited

def Decor.isPlain (d : Decor) : Bool :=
  d == {}

/-- The kinds of elements, over children of type `α`. -/
inductive Kind (α : Type) where
  | literal (text : String)
  | pattern (regex : Regex) (capture : Capture)
  /-- All children, one after the other. -/
  | sequence (children : List α)
  /-- The first child that matches. -/
  | alternation (children : List α)
  /-- As many matches of the child as possible, within bounds. -/
  | repetition (child : α) (min : Nat) (max : Option Nat)
  /-- Items with separators between them, within bounds on the items. -/
  | separated (item separator : α) (min : Nat) (max : Option Nat)
  /-- A typed leaf: the matched text goes through `f`, and where that gives
  nothing the leaf does not match. -/
  | convert (child : α) (name : Option String) (f : String → Option Value)
  | endOfInput
  /-- A named rule. Back-references reach it by its key, if it has one. -/
  | rule (key : Option Nat) (name : String) (body : α)
  | backref (name : String) (target : Nat)

/-- A grammar element. -/
inductive Element where
  | node (decor : Decor) (kind : Kind Element)

namespace Kind

/-- The children in the order of evaluation. -/
def children {α : Type} : Kind α → List α
  | sequence children | alternation children => children
  | repetition child _ _ | convert child _ _ => [child]
  | separated item separator _ _ => [item, separator]
  | rule _ _ body => [body]
  | literal _ | pattern _ _ | endOfInput | backref _ _ => []

def isSequence {α : Type} : Kind α → Bool
  | sequence _ => true
  | _ => false

def isAlternation {α : Type} : Kind α → Bool
  | alternation _ => true
  | _ => false

def isRule {α : Type} : Kind α → Bool
  | rule _ _ _ => true
  | _ => false

end Kind

namespace Element

/-- An element without decorations. -/
def ofKind (kind : Kind Element) : Element :=
  node {} kind

def decor : Element → Decor
  | node decor _ => decor

def kind : Element → Kind Element
  | node _ kind => kind

def children (e : Element) : List Element :=
  e.kind.children

def isStripped (e : Element) : Bool :=
  e.decor.stripped

def isFlattened (e : Element) : Bool :=
  e.decor.flattened

def id? (e : Element) : Option String :=
  e.decor.id

def isRule (e : Element) : Bool :=
  e.kind.isRule

/-- Whether the element is a sequence without decorations. -/
def isPlainSequence (e : Element) : Bool :=
  e.kind.isSequence && e.decor.isPlain

/-- Whether the element is a choice without decorations. -/
def isPlainAlternation (e : Element) : Bool :=
  e.kind.isAlternation && e.decor.isPlain

/-- A copy with other decorations. A rule is wrapped in a new one instead, as
a copy of it would not be the rule that its back-references reach. -/
def redecorate (e : Element) (edit : Decor → Decor) : Element :=
  match e.kind with
  | .rule _ name _ => node (edit e.decor) (.rule none name e)
  | kind => node (edit e.decor) kind

/-- A copy that has to match and contributes nothing. -/
def strip (e : Element) : Element :=
  e.redecorate fun d => { d with stripped := true }

/-- A copy whose list loses one level of nesting: a single item takes the place
of the list, and other items go to the parent one by one. -/
def flatten (e : Element) : Element :=
  e.redecorate fun d => { d with flattened := true }

/-- A copy with a label. -/
def withId (e : Element) (id : String) : Element :=
  e.redecorate fun d => { d with id := some id }

mutual

/-- The first element with a label, from the root down and from left to right.
Back-references are not followed. -/
def find? (id : String) : Element → Option Element
  | node decor kind =>
    if decor.id = some id then some (node decor kind) else findBelow? id kind

/-- The first element with a label among the children of a kind. -/
def findBelow? (id : String) : Kind Element → Option Element
  | .sequence children => findAmong? id children
  | .alternation children => findAmong? id children
  | .repetition child _ _ => child.find? id
  | .separated item separator _ _ => item.find? id <|> separator.find? id
  | .convert child _ _ => child.find? id
  | .rule _ _ body => body.find? id
  | .literal _ | .pattern _ _ | .endOfInput | .backref _ _ => none

/-- The first element with a label in several trees. -/
def findAmong? (id : String) : List Element → Option Element
  | [] => none
  | e :: rest => e.find? id <|> findAmong? id rest

end

end Element

/-- Rules by their keys. -/
abbrev RuleTable := List (Nat × Element)

/-- A grammar that is ready to run: the element to start with, and the rules
that back-references can reach. -/
structure Grammar where
  root : Element
  rules : RuleTable := []

end Peg
