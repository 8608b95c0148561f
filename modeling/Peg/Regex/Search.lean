import Peg.Regex.Program

/-!
Running a program on a text from a given position.

All ways to match are followed side by side, in order of preference, one
character at a time. No instruction is followed twice at one position, so the
time is bounded by the size of the program times the length of the text.
-/
namespace Peg.Regex

/-- One way to match: the instruction it has come to, the beginnings of the
groups that are open, and the groups it has completed. -/
structure Thread where
  pc : Nat
  opened : List Cursor
  groups : List (Option (Cursor × Cursor))

namespace Thread

def goTo (t : Thread) (pc : Nat) : Thread :=
  { t with pc := pc }

/-- Notes that a group begins. -/
def enter (t : Thread) (c : Cursor) : Thread :=
  { t with pc := t.pc + 1, opened := c :: t.opened }

/-- Notes that the group begun last ends, as the group with number `index`. -/
def leave (t : Thread) (index : Nat) (c : Cursor) : Thread :=
  match t.opened with
  | [] => t.goTo (t.pc + 1)
  | first :: opened => ⟨t.pc + 1, opened, t.groups.set (index - 1) (some (first, c))⟩

/-- Where a thread can go without passing a character, in order of preference. -/
def next (t : Thread) (inst : Inst) (c : Cursor) : List Thread :=
  match inst with
  | .char _ => []
  | .look l => if l.holds c then [t.goTo (t.pc + 1)] else []
  | .split first second => [t.goTo first, t.goTo second]
  | .jump target => [t.goTo target]
  | .enter => [t.enter c]
  | .leave index => [t.leave index c]
  | .accept => []

/-- The thread behind the character `x`, if it can pass it. -/
def pass? (program : Array Inst) (x : Char) (t : Thread) : Option Thread :=
  match program[t.pc]? with
  | some (.char s) => if s.contains x then some (t.goTo (t.pc + 1)) else none
  | _ => none

end Thread

/-- What the threads at one position lead to: those that wait for a character,
in order of preference, and the thread that ends in a match. What is less
preferred than a match is dropped. -/
structure Front where
  waiting : List Thread
  accepted : Option Thread

/-- Follows the threads on the stack until each waits for a character.
`seen` marks the instructions that were followed already. -/
def explore (program : Array Inst) (c : Cursor) :
    Nat → List Thread → Array Bool → List Thread → Front
  | 0, _, _, waiting => ⟨waiting.reverse, none⟩
  | _ + 1, [], _, waiting => ⟨waiting.reverse, none⟩
  | fuel + 1, t :: stack, seen, waiting =>
    if seen[t.pc]?.getD true then explore program c fuel stack seen waiting
    else
      let seen := seen.setIfInBounds t.pc true
      match program[t.pc]? with
      | none => explore program c fuel stack seen waiting
      -- The rest of the stack is less preferred than this match.
      | some .accept => ⟨waiting.reverse, some t⟩
      | some (.char _) => explore program c fuel stack seen (t :: waiting)
      | some inst => explore program c fuel (t.next inst c ++ stack) seen waiting

/-- Follows threads until each waits for a character. Every instruction is
followed once and leads to two others at most, which bounds the steps. -/
def front (program : Array Inst) (c : Cursor) (threads : List Thread) : Front :=
  explore program c (threads.length + 2 * program.size + 1) threads
    (Array.replicate program.size false) []

/-- The match that the front ends in, or else the one found before. A later
match is preferred, as all threads that outlive a match are preferred to it. -/
def Front.better (f : Front) (c : Cursor) (best : Option (Cursor × Thread)) :
    Option (Cursor × Thread) :=
  (f.accepted.map (c, ·)).or best

/-- Runs threads over the characters ahead of the cursor. -/
def runThreads (program : Array Inst) (c : Cursor) (threads : List Thread)
    (best : Option (Cursor × Thread)) : List Char → Option (Cursor × Thread)
  | [] => (front program c threads).better c best
  | x :: rest =>
    let f := front program c threads
    let threads := f.waiting.filterMap (Thread.pass? program x)
    if threads.isEmpty then f.better c best
    else runThreads program (c.step x rest) threads (f.better c best) rest

/-- The preferred match of a program at the cursor: where it ends, and the
groups it completed out of `groups`. -/
def search (program : Array Inst) (groups : Nat) (c : Cursor) : Option (Cursor × Thread) :=
  runThreads program c [⟨0, [], List.replicate groups none⟩] none c.after

end Peg.Regex
