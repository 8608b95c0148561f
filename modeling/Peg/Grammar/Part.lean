import Peg.Grammar.Combinator

/-!
Elements in the making.

While a grammar is put together, an element can be taken out of another, and
what is left behind is let go with the rules in it. A part is an element that
knows which rules it holds, and so do the parts that it consists of. Nothing
has to be searched through for its rules, however often it is used.
-/
namespace Peg

namespace RuleTable

/-- Adds a rule, unless its key is taken: then it is there already. -/
def insert (table : RuleTable) (entry : Nat × Element) : RuleTable :=
  if table.any (·.1 == entry.1) then table else entry :: table

/-- The rules of both tables. -/
def union (s : RuleTable) : RuleTable → RuleTable
  | [] => s
  | t => s.foldl insert t

end RuleTable

/-- An element with the rules in it that back-references can reach, and the
parts that its children are. -/
inductive Part where
  | node (element : Element) (rules : RuleTable) (parts : List Part)

namespace Part

def element : Part → Element
  | node element _ _ => element

def rules : Part → RuleTable
  | node _ rules _ => rules

def parts : Part → List Part
  | node _ _ parts => parts

/-- The rules in any of several parts. -/
def rulesAmong (parts : List Part) : RuleTable :=
  parts.foldr (fun p table => p.rules.union table) []

/-- An element, no rule with a key itself, whose children are these parts. -/
def ofElement (element : Element) (parts : List Part) : Part :=
  node element (rulesAmong parts) parts

/-- A leaf, or an element above leaves, without rules. -/
def simple (element : Element) : Part :=
  ofElement element (element.children.map (ofElement · []))

/-- A rule that back-references reach by its key. -/
def rule (key : Nat) (name : String) (body : Part) : Part :=
  let element := Element.ofKind (.rule (some key) name body.element)
  node element (body.rules.insert (key, element)) [body]

def sequence (parts : List Part) : Part :=
  ofElement (.sequence (parts.map element)) parts

def alternation (parts : List Part) : Part :=
  ofElement (.alternation (parts.map element)) parts

def plus (a b : Part) : Part :=
  ofElement (a.element.plus b.element)
    ((if a.element.isPlainSequence then a.parts else [a]) ++ [b])

def orElse (a b : Part) : Part :=
  ofElement (a.element.orElse b.element)
    ((if a.element.isPlainAlternation then a.parts else [a]) ++ [b])

/-- A new element around this one alone. -/
def around (p : Part) (wrap : Element → Element) : Part :=
  ofElement (wrap p.element) [p]

def separatedBy (separator item : Part) (min : Nat) (max : Option Nat) : Part :=
  ofElement (.separatedBy separator.element item.element min max) [item, separator]

/-- The part of a copy with other decorations. The copy of a rule is a rule
around it; any other copy has the same children. -/
def recast (p : Part) (copy : Element) : Part :=
  ofElement copy (if p.element.isRule then [p] else p.parts)

def strip (p : Part) : Part :=
  p.recast p.element.strip

def flatten (p : Part) : Part :=
  p.recast p.element.flatten

def withId (p : Part) (id : String) : Part :=
  p.recast (p.element.withId id)

mutual

/-- The first part with a label, from the root down and from left to right. -/
def find? (id : String) : Part → Option Part
  | node element rules parts =>
    if element.id? = some id then some (node element rules parts) else findAmong? id parts

/-- The first part with a label in several parts. -/
def findAmong? (id : String) : List Part → Option Part
  | [] => none
  | p :: rest => p.find? id <|> findAmong? id rest

end

end Part

end Peg
