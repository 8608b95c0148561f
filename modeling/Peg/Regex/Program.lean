import Peg.Regex.Class
import Peg.Regex.Pattern
import Peg.Text.Cursor

/-!
Patterns as programs for a machine that follows all ways to match at once.

A program is a list of instructions; the code of a pattern starts at the
address it is made for and goes on to the address behind it. Where two ways
are open, the first of a `split` is preferred.
-/
namespace Peg.Regex

open Unicode (CodeSet)

/-- One instruction. Those without an address go on to the next one. -/
inductive Inst where
  /-- Passes one character of the set. -/
  | char (s : CodeSet)
  /-- Goes on only where the condition holds. -/
  | look (l : Look)
  | split (first second : Nat)
  | jump (target : Nat)
  /-- Notes where a group begins. -/
  | enter
  /-- Notes that the group with this number, the last one begun, ends here. -/
  | leave (index : Nat)
  | accept
deriving Repr

namespace Look

def isWord (unicode : Bool) (c : Option Char) : Bool :=
  c.any (if unicode then wordChars else asciiWordChars).contains

/-- Whether the condition holds at a position. -/
def holds (l : Look) (c : Cursor) : Bool :=
  match l with
  | textStart => c.previous? == none
  | textEnd => c.peek? == none
  | lineStart => c.previous? == none || c.previous? == some '\n'
  | lineEnd => c.peek? == none || c.peek? == some '\n'
  | crlfStart =>
    c.previous? == none || c.previous? == some '\n'
      || (c.previous? == some '\r' && c.peek? != some '\n')
  | crlfEnd =>
    c.peek? == none || c.peek? == some '\r'
      || (c.peek? == some '\n' && c.previous? != some '\r')
  | wordBoundary u => isWord u c.previous? != isWord u c.peek?
  | notWordBoundary u => isWord u c.previous? == isWord u c.peek?
  | wordStart u => !isWord u c.previous? && isWord u c.peek?
  | wordEnd u => isWord u c.previous? && !isWord u c.peek?
  | wordStartHalf u => !isWord u c.previous?
  | wordEndHalf u => !isWord u c.peek?

end Look

namespace Program

/-- A choice between entering a repetition and leaving it. -/
def fork (greedy : Bool) (body exit : Nat) : Inst :=
  if greedy then .split body exit else .split exit body

/-- Some code `n` times in a row. -/
def exactly (code : Nat → List Inst) : Nat → Nat → List Inst
  | 0, _ => []
  | n + 1, base =>
    let once := code base
    once ++ exactly code n (base + once.length)

/-- Some code up to `n` times, each time with a way out to `exit`. -/
def upTo (code : Nat → List Inst) (greedy : Bool) (exit : Nat) : Nat → Nat → List Inst
  | 0, _ => []
  | n + 1, base =>
    let once := code (base + 1)
    fork greedy (base + 1) exit :: (once ++ upTo code greedy exit n (base + 1 + once.length))

/-- Some code once or more. -/
def onceOrMore (code : Nat → List Inst) (greedy : Bool) (base : Nat) : List Inst :=
  let once := code base
  let back := base + once.length
  once ++ [fork greedy base (back + 1)]

/-- Some code any number of times. If the code can pass without a character,
the way in and the way back are two instructions, so that the way back is
still open after the way in was taken. -/
def anyNumber (code : Nat → List Inst) (greedy nullable : Bool) (base : Nat) : List Inst :=
  let once := code (base + 1)
  let back := base + 1 + once.length
  let again := if nullable then fork greedy (base + 1) (back + 1) else .jump base
  fork greedy (base + 1) (back + 1) :: (once ++ [again])

/-- The number of instructions of `times`, for code of `size` instructions. -/
def timesSize (size min : Nat) : Option Nat → Nat
  | none => if min = 0 then size + 2 else min * size + 1
  | some max => min * size + (max - min) * (size + 1)

/-- Some code of `size` instructions at least `min` and at most `max` times. -/
def times (code : Nat → List Inst) (size : Nat) (greedy nullable : Bool) (min : Nat)
    (max : Option Nat) (base : Nat) : List Inst :=
  match min, max with
  | 0, none => anyNumber code greedy nullable base
  | n + 1, none =>
    let first := exactly code n base
    first ++ onceOrMore code greedy (base + first.length)
  | min, some max =>
    let first := exactly code min base
    let exit := base + timesSize size min (some max)
    first ++ upTo code greedy exit (max - min) (base + first.length)

end Program

/-- The number of instructions of a pattern, wherever its code starts. -/
def Pattern.codeSize : Pattern → Nat
  | empty => 0
  | literal cs => cs.length
  | set _ _ => 1
  | look _ => 1
  | group _ _ body => body.codeSize + 2
  | times min max _ body => Program.timesSize body.codeSize min max
  | seq a b => a.codeSize + b.codeSize
  | alt a b => a.codeSize + b.codeSize + 2

/-- The code of a pattern at an address. -/
def Pattern.code : Pattern → Nat → List Inst
  | empty, _ => []
  | literal cs, _ => cs.map fun c => .char (CodeSet.single c)
  | set _ s, _ => [.char s]
  | look l, _ => [.look l]
  | group index _ body, base => .enter :: (body.code (base + 1) ++ [.leave index])
  | times min max greedy body, base =>
    Program.times body.code body.codeSize greedy (!body.minLength?.any (0 < ·)) min max base
  | seq a b, base =>
    let first := a.code base
    first ++ b.code (base + first.length)
  | alt a b, base =>
    let first := a.code (base + 1)
    let second := base + 1 + first.length + 1
    let other := b.code second
    .split (base + 1) second :: (first ++ .jump (second + other.length) :: other)

/-- The program of a pattern. -/
def Pattern.program (p : Pattern) : Array Inst :=
  (p.code 0 ++ [Inst.accept]).toArray

end Peg.Regex
