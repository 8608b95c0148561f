/-!
Regular expressions as they are written: the tree that a pattern is read
into, with flags still in their places and names not yet looked up.
-/
namespace Peg.Regex

/-- The settings that a pattern can switch on and off. -/
inductive Flag where
  /-- Letters match in either case. -/
  | caseless
  /-- `^` and `$` match at line ends too. -/
  | multiline
  /-- The dot matches line ends. -/
  | dotAll
  /-- Repetitions are lazy, and greedy after a question mark. -/
  | swapGreed
  /-- Classes and case are those of all scripts. -/
  | unicode
  /-- A carriage return ends a line too. -/
  | crlf
  /-- Blanks and comments in the pattern are ignored. -/
  | verbose
deriving DecidableEq, Repr

/-- A change of flags: what is switched on, and what is switched off. -/
structure FlagChange where
  on : List Flag
  off : List Flag
deriving DecidableEq, Repr

/-- What the change says about one flag. -/
def FlagChange.state? (ch : FlagChange) (f : Flag) : Option Bool :=
  if ch.on.contains f then some true else if ch.off.contains f then some false else none

/-- Conditions on a position, as written. -/
inductive Anchor where
  | lineStart
  | lineEnd
  | textStart
  | textEnd
  | wordBoundary
  | notWordBoundary
  | wordStart
  | wordEnd
  | wordStartHalf
  | wordEndHalf
deriving DecidableEq, Repr

/-- The classes with a one-letter escape. -/
inductive Shorthand where
  | digit
  | space
  | word
deriving DecidableEq, Repr

/-- The classes of ASCII characters that are written `[:name:]`. -/
inductive Posix where
  | alnum | alpha | ascii | blank | cntrl | digit | graph
  | lower | print | punct | space | upper | word | xdigit
deriving DecidableEq, Repr

/-- How two character classes are combined. -/
inductive SetOp where
  | intersection
  | difference
  | symmetricDifference
deriving DecidableEq, Repr

/-- A character property, by its name alone or by name and value. -/
inductive Property where
  | named (name : String)
  | valued (name value : String)
deriving DecidableEq, Repr

/-- A character class, as written between brackets. -/
inductive ClassExpr where
  | empty
  | literal (c : Char)
  | range (lo hi : Char)
  | posix (negated : Bool) (kind : Posix)
  | property (negated : Bool) (p : Property)
  | shorthand (negated : Bool) (kind : Shorthand)
  | bracket (negated : Bool) (inner : ClassExpr)
  /-- Items that stand side by side. The second is again a union when there
  are more than two. -/
  | union (first rest : ClassExpr)
  | op (kind : SetOp) (left right : ClassExpr)

namespace ClassExpr

def isUnion : ClassExpr → Bool
  | union .. => true
  | _ => false

/-- How deep brackets, unions and operators are nested. -/
def depth : ClassExpr → Nat
  | bracket _ inner => inner.depth + 1
  | union first rest =>
    max (first.depth + 1) (if rest.isUnion then rest.depth else rest.depth + 1)
  | op _ left right => max left.depth right.depth + 1
  | _ => 0

/-- Items in reverse order as one class. -/
def ofItems : List ClassExpr → ClassExpr
  | [] => empty
  | last :: before => before.foldl (fun acc item => union item acc) last

end ClassExpr

/-- What a pair of parentheses does. -/
inductive GroupKind where
  /-- Captures what it matches, under a number and perhaps a name. -/
  | capture (index : Nat) (name : Option String)
  /-- Changes flags inside. -/
  | plain (change : FlagChange)
deriving DecidableEq, Repr

/-- A regular expression, as written. -/
inductive Expr where
  | empty
  | flags (change : FlagChange)
  /-- One character. `byte` marks the escape of two hexadecimal digits, which
  stands for a byte where classes are not Unicode. -/
  | literal (c : Char) (byte : Bool)
  | dot
  | anchor (a : Anchor)
  | property (negated : Bool) (p : Property)
  | shorthand (negated : Bool) (kind : Shorthand)
  | bracket (negated : Bool) (inner : ClassExpr)
  | times (min : Nat) (max : Option Nat) (greedy : Bool) (body : Expr)
  | group (kind : GroupKind) (body : Expr)
  | concat (items : List Expr)
  | choice (branches : List Expr)

namespace Expr

mutual

/-- How deep groups, repetitions, classes, sequences and choices are nested. -/
def depth : Expr → Nat
  | bracket _ inner => inner.depth + 1
  | times _ _ _ body => body.depth + 1
  | group _ body => body.depth + 1
  | concat items => deepest items + 1
  | choice branches => deepest branches + 1
  | _ => 0

/-- The depth of the deepest of several expressions. -/
def deepest : List Expr → Nat
  | [] => 0
  | e :: rest => max e.depth (deepest rest)

end

/-- Items in reverse order, one after the other. -/
def ofItems : List Expr → Expr
  | [] => empty
  | [e] => e
  | items => concat items.reverse

/-- Branches in reverse order, the first that matches first. -/
def ofBranches : List Expr → Expr
  | [] => empty
  | [e] => e
  | branches => choice branches.reverse

/-- Whether a repetition may follow. -/
def isRepeatable : Expr → Bool
  | empty | flags _ => false
  | _ => true

end Expr

end Peg.Regex
