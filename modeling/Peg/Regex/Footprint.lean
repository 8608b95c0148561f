import Peg.Regex.Pattern
import Peg.Text.Cursor

/-!
The memory that a pattern asks for, and how much of it there is.

Counted repetitions of each other grow without measure, so a pattern that
would take too much is refused before its program is made. What counts is one
state for each byte of a literal, for each condition, and for each place where
ways part or join again; the ends of a class are two states, and so are those
of a group.
-/
namespace Peg.Regex

/-- The most memory that a pattern may ask for, in bytes. -/
def memoryLimit : Nat :=
  10 * 1024 * 1024

namespace Footprint

/-- A state. -/
def state : Nat := 32

/-- A way out of a state where ways part. -/
def exit : Nat := 4

/-- A state where two ways part. -/
def fork : Nat := state + 2 * exit

/-- An interval of a class. -/
def span : Nat := 8

/-- A repetition of something that takes `body`. -/
def times (body : Nat) (nullable : Bool) (min : Nat) : Option Nat → Nat
  | none =>
    if min = 0 then (if nullable then body + 2 * fork + state else body + fork)
    else min * body + fork
  | some max =>
    if max = min then min * body
    else min * body + state + (max - min) * (fork + body)

end Footprint

/-- The memory that a pattern asks for, in bytes. -/
def Pattern.footprint : Pattern → Nat
  | empty => Footprint.state
  | literal cs => Footprint.state * byteLength cs
  | set _ s => 2 * Footprint.state + Footprint.span * s.spans.length
  | look _ => Footprint.state
  | group _ _ body => 2 * Footprint.state + body.footprint
  | times min max _ body =>
    Footprint.times body.footprint (!body.minLength?.any (0 < ·)) min max
  | seq a b => a.footprint + b.footprint
  -- All branches of a choice leave the same state and end in another.
  | alt a (alt b c) => a.footprint + (alt b c).footprint + Footprint.exit
  | alt a b => Footprint.fork + a.footprint + b.footprint + Footprint.state

/-- Whether there is memory enough for a pattern. -/
def Pattern.fits (p : Pattern) : Bool :=
  p.footprint ≤ memoryLimit

end Peg.Regex
