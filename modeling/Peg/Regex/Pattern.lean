import Peg.Unicode.Ranges

/-!
Regular expressions in the form in which they are run.

The constructors of this module keep patterns small: nested sequences and
choices are flat, letters that follow each other are one literal, a choice
between characters is a class, and a choice whose branches all start alike
shares that start. A choice prefers its first branch, so the last of these
also decides which of two matches is found when the shared start can match in
several ways.
-/
namespace Peg.Regex

open Unicode (CodeSet)

/-- Conditions on a position. `unicode` tells whether words are made of the
letters, marks and digits of all scripts, or of those of ASCII alone. -/
inductive Look where
  | textStart
  | textEnd
  | lineStart
  | lineEnd
  | crlfStart
  | crlfEnd
  | wordBoundary (unicode : Bool)
  | notWordBoundary (unicode : Bool)
  | wordStart (unicode : Bool)
  | wordEnd (unicode : Bool)
  | wordStartHalf (unicode : Bool)
  | wordEndHalf (unicode : Bool)
deriving DecidableEq, Repr

/-- What a class was made of. Classes of the same characters that were made of
different things match alike, and are still two different patterns. -/
inductive Alphabet where
  | characters
  | bytes
deriving DecidableEq, Repr

/-- A regular expression without flags and names to look up. -/
inductive Pattern where
  | empty
  /-- These characters, one after the other. -/
  | literal (cs : List Char)
  /-- One character of a set. -/
  | set (alphabet : Alphabet) (s : CodeSet)
  | look (l : Look)
  | group (index : Nat) (name : Option String) (body : Pattern)
  | times (min : Nat) (max : Option Nat) (greedy : Bool) (body : Pattern)
  | seq (first second : Pattern)
  | alt (first second : Pattern)
deriving DecidableEq, Repr

namespace Pattern

/-- The least number of characters in a match; nothing if a part of the
pattern cannot match at all. -/
def minLength? : Pattern → Option Nat
  | empty => some 0
  | literal cs => some cs.length
  | set _ s => if s.isEmpty then none else some 1
  | look _ => some 0
  | group _ _ body => body.minLength?
  | times min _ _ body => body.minLength?.map (· * min)
  | seq a b => return (← a.minLength?) + (← b.minLength?)
  | alt a b => return min (← a.minLength?) (← b.minLength?)

/-- The greatest number of characters in a match; nothing if there is no
bound, or if a part of the pattern cannot match at all. -/
def maxLength? : Pattern → Option Nat
  | empty => some 0
  | literal cs => some cs.length
  | set _ s => if s.isEmpty then none else some 1
  | look _ => some 0
  | group _ _ body => body.maxLength?
  | times _ max _ body => return (← body.maxLength?) * (← max)
  | seq a b => return (← a.maxLength?) + (← b.maxLength?)
  | alt a b => return max (← a.maxLength?) (← b.maxLength?)

/-- What matches nothing at all. -/
def nothing : Pattern :=
  set .bytes CodeSet.empty

/-- One character of a set. A set of one character is a literal, and a set
without characters is the same pattern whatever it was made of. -/
def ofSet (alphabet : Alphabet) (s : CodeSet) : Pattern :=
  match s.spans with
  | [] => nothing
  | [(lo, hi)] => if lo = hi then literal [Char.ofNat lo] else set alphabet s
  | _ => set alphabet s

/-- A repetition. One of something that matches only the empty text is done at
most once, a repetition of exactly one time is the body itself, and one of no
time is empty. -/
def ofTimes (min : Nat) (max : Option Nat) (greedy : Bool) (body : Pattern) : Pattern :=
  let (min, max) :=
    if body.maxLength? = some 0 then (Nat.min min 1, some (Nat.min (max.getD 1) 1))
    else (min, max)
  if max = some 0 ∧ min = 0 then empty
  else if max = some 1 ∧ min = 1 then body
  else times min max greedy body

/-- The parts of a sequence. -/
def parts : Pattern → List Pattern
  | empty => []
  | seq a b => a.parts ++ b.parts
  | p => [p]

/-- The branches of a choice. -/
def branches : Pattern → List Pattern
  | alt a b => a.branches ++ b.branches
  | p => [p]

/-- Puts a part before others, joining literals. -/
def consPart (p : Pattern) (rest : List Pattern) : List Pattern :=
  match p, rest with
  | literal a, literal b :: rest => literal (a ++ b) :: rest
  | p, rest => p :: rest

/-- Parts one after the other, taken as they are. -/
def ofParts : List Pattern → Pattern
  | [] => empty
  | [p] => p
  | p :: rest => seq p (ofParts rest)

/-- Patterns one after the other. -/
def concat (ps : List Pattern) : Pattern :=
  ofParts ((ps.flatMap parts).foldr consPart [])

/-- Branches taken as they are. A choice without branches matches nothing. -/
def ofBranches : List Pattern → Pattern
  | [] => nothing
  | [p] => p
  | p :: rest => alt p (ofBranches rest)

/-- The set of a literal of one character. -/
def letter? : Pattern → Option CodeSet
  | literal [c] => some (CodeSet.single c)
  | _ => none

/-- The set of a class. -/
def class? : Pattern → Option CodeSet
  | set _ s => some s
  | _ => none

/-- A choice whose branches are all of one kind, letters or classes, as one
class. -/
def mergeSets? (ps : List Pattern) : Option Pattern :=
  match ps.mapM letter? <|> ps.mapM class? with
  | some sets => some (ofSet .characters (CodeSet.ofSpans (sets.flatMap CodeSet.spans)))
  | none => none

/-- Branches as a class if possible. -/
def merge (ps : List Pattern) : Pattern :=
  match ps with
  | [p] => p
  | ps => (mergeSets? ps).getD (ofBranches ps)

/-- The parts that two sequences start with. -/
def sharedStart : List Pattern → List Pattern → List Pattern
  | p :: ps, q :: qs => if p = q then p :: sharedStart ps qs else []
  | _, _ => []

/-- The longest start that all branches share, if each branch is a sequence of
at least two parts. -/
def commonStart : List (List Pattern) → List Pattern
  | [] => []
  | first :: rest =>
    if (first :: rest).all (2 ≤ ·.length) then rest.foldl sharedStart first else []

/-- A choice between patterns, the first preferred. -/
def choice (ps : List Pattern) : Pattern :=
  let all := ps.flatMap branches
  match all with
  | [p] => p
  | all =>
    match mergeSets? all with
    | some p => p
    | none =>
      let sequences := all.map parts
      let start := commonStart sequences
      if start.isEmpty then ofBranches all
      else
        let ends := sequences.map fun ps => ofParts (ps.drop start.length)
        concat (start ++ [merge (ends.flatMap branches)])

/-- The capturing groups in the pattern with their names. -/
def captures : Pattern → List (Nat × Option String)
  | group index name body => (index, name) :: body.captures
  | times _ _ _ body => body.captures
  | seq a b => a.captures ++ b.captures
  | alt a b => a.captures ++ b.captures
  | _ => []

end Pattern

end Peg.Regex
