/-!
Sets of code points as lists of closed intervals.

`CodeSet.ofSpans` sorts and merges, so that every set built from it has its
intervals in ascending order with gaps between them. Membership relies on
that order and stops at the first interval beyond the code point.
-/
namespace Peg.Unicode

/-- A set of code points, given by closed intervals in ascending order. -/
structure CodeSet where
  spans : List (Nat × Nat)
deriving DecidableEq, Repr

namespace CodeSet

/-- The greatest code point. -/
def last : Nat := 0x10FFFF

/-- Whether `n` lies in one of the ascending intervals. -/
def spansContain : List (Nat × Nat) → Nat → Bool
  | [], _ => false
  | (lo, hi) :: rest, n => if n < lo then false else n ≤ hi || spansContain rest n

/-- Whether the set holds the character `c`. -/
def contains (s : CodeSet) (c : Char) : Bool :=
  spansContain s.spans c.toNat

/-- Joins the pending interval `a` to `b` with the ascending intervals after
it: intervals that overlap or touch become one. -/
def mergeFrom (a b : Nat) : List (Nat × Nat) → List (Nat × Nat)
  | [] => [(a, b)]
  | (c, d) :: rest =>
    if c ≤ b + 1 then mergeFrom a (max b d) rest else (a, b) :: mergeFrom c d rest

/-- The set covered by intervals in any order, overlapping or not. -/
def ofSpans (spans : List (Nat × Nat)) : CodeSet :=
  match spans.mergeSort (fun s t => s.1 ≤ t.1) with
  | [] => ⟨[]⟩
  | (a, b) :: rest => ⟨mergeFrom a b rest⟩

/-- The set of one character. -/
def single (c : Char) : CodeSet :=
  ⟨[(c.toNat, c.toNat)]⟩

/-- The set with no members. -/
def empty : CodeSet :=
  ⟨[]⟩

def isEmpty (s : CodeSet) : Bool :=
  s.spans.isEmpty

/-- The code point after `n`, stepping over the surrogates. -/
def next (n : Nat) : Nat :=
  if n = 0xD7FF then 0xE000 else n + 1

/-- The code point before `n`, stepping over the surrogates. -/
def prior (n : Nat) : Nat :=
  if n = 0xE000 then 0xD7FF else n - 1

/-- The gaps from `start` on that the ascending intervals leave. -/
def gaps (start : Nat) : List (Nat × Nat) → List (Nat × Nat)
  | [] => if start ≤ last then [(start, last)] else []
  | (lo, hi) :: rest =>
    if start < lo then (start, prior lo) :: gaps (next hi) rest else gaps (next hi) rest

/-- All characters that are not in the set. -/
def complement (s : CodeSet) : CodeSet :=
  ⟨gaps 0 s.spans⟩

def union (s t : CodeSet) : CodeSet :=
  ofSpans (s.spans ++ t.spans)

/-- The interval that two intervals share, if there is one. -/
def overlap (a b : Nat × Nat) : Option (Nat × Nat) :=
  let lo := max a.1 b.1
  let hi := min a.2 b.2
  if lo ≤ hi then some (lo, hi) else none

/-- The members of both sets. -/
def inter (s t : CodeSet) : CodeSet :=
  ⟨s.spans.flatMap fun a => t.spans.filterMap (overlap a)⟩

/-- The members of the first set that are not in the second. -/
def diff (s t : CodeSet) : CodeSet :=
  s.inter t.complement

/-- The members of exactly one of the two sets. -/
def symmDiff (s t : CodeSet) : CodeSet :=
  (s.union t).diff (s.inter t)

end CodeSet

end Peg.Unicode
