import Peg.Parse.Contribution
import Peg.Parse.Error
import Peg.Trace.Event

/-!
The state of a parse and the steps on it.

A step that does not match is no error: errors end the whole parse. The state
survives an error, so that what was observed up to it can still be told.
-/
namespace Peg

/-- The furthest place at which a leaf failed, and what was expected there, in
the order in which it was tried. -/
structure Furthest where
  cursor : Cursor
  expected : List String

/-- Notes that something was expected at a place. What was expected before that
place is of no interest any more, and nothing is noted twice. -/
def Furthest.record (f : Furthest) (c : Cursor) (label : Unit → String) : Furthest :=
  if c.offset < f.cursor.offset then f
  else
    -- The label is made only here, where it is needed.
    let label := label ()
    if f.cursor.offset < c.offset then ⟨c, [label]⟩
    else if f.expected.contains label then f
    else { f with expected := f.expected ++ [label] }

/-- The error that tells what was expected. -/
def Furthest.error (f : Furthest) : ParseError :=
  .noMatch f.cursor.offset f.cursor.line f.cursor.column f.expected

/-- The state of an evaluation. -/
structure State (σ : Type) where
  scanner : Scanner
  /-- How many elements may still be evaluated. -/
  fuel : Nat
  /-- How many evaluations are open. -/
  depth : Nat
  /-- How many typed leaves are open. Inside them nothing is noted as expected,
  as the leaf itself is what was expected. -/
  quiet : Nat
  furthest : Furthest
  trace : σ

/-- What stays the same during an evaluation. -/
structure Engine (σ : Type) where
  /-- The rules that back-references can reach. -/
  rules : RuleTable
  limits : Limits
  tracer : Tracer σ

/-- A step of an evaluation. The state survives an error. -/
abbrev Eval (σ : Type) := EStateM ParseError (State σ)

namespace Eval

variable {σ : Type}

/-- Where the scanner is. -/
def cursor : Eval σ Cursor := do
  return (← get).scanner.cursor

/-- Where the next literal or pattern is looked for. -/
def skippedCursor : Eval σ Cursor := do
  return (← get).scanner.skippedCursor

def setScanner (scanner : Scanner) : Eval σ Unit :=
  modify fun s => { s with scanner := scanner }

/-- Goes to a mark. -/
def reset (mark : Cursor) : Eval σ Unit :=
  modify fun s => { s with scanner := s.scanner.reset mark }

/-- Takes over the result of an operation on the mark stack. -/
def ofMarks (result : Except ScanError Scanner) : Eval σ Unit :=
  match result with
  | .ok scanner => setScanner scanner
  | .error e => throw (.scanner e)

/-- Notes what was expected at a place, outside typed leaves. -/
def record (c : Cursor) (label : Unit → String) : Eval σ Unit :=
  modify fun s => if 0 < s.quiet then s else { s with furthest := s.furthest.record c label }

/-- Pays for an evaluation. -/
def spend (limits : Limits) : Eval σ Unit := do
  let s ← get
  if s.fuel = 0 then throw (.fuelExhausted limits.fuel)
  else set { s with fuel := s.fuel - 1 }

/-- Tells the observer that the cursor has gone back, if it has. -/
def backtracked (tracer : Tracer σ) (start : Cursor) : Eval σ Unit :=
  modify fun s =>
    let stop := s.scanner.position
    if start.offset = stop then s
    else { s with trace := tracer.backtrack start.offset stop s.trace }

/-- Goes back to a mark and tells the observer. -/
def rewind (tracer : Tracer σ) (mark : Cursor) : Eval σ Unit := do
  let start ← cursor
  reset mark
  backtracked tracer start

/-- Opens an evaluation. -/
def enter (tracer : Tracer σ) (e : Element) : Eval σ Unit :=
  modify fun s =>
    { s with depth := s.depth + 1, trace := tracer.enter e s.scanner.position s.trace }

/-- Closes an evaluation that failed. -/
def fail (tracer : Tracer σ) (e : Element) : Eval σ Unit :=
  modify fun s =>
    { s with depth := s.depth - 1, trace := tracer.failure e s.scanner.position s.trace }

/-- Closes an evaluation that matched. The match starts behind the characters
skipped at `entry`, unless it ends before them. -/
def succeed (tracer : Tracer σ) (e : Element) (entry : Cursor) : Eval σ Unit :=
  modify fun s =>
    let stop := s.scanner.position
    let token := (s.scanner.reset entry).skippedPosition
    let start := if token ≤ stop then token else entry.offset
    { s with depth := s.depth - 1, trace := tracer.success e start stop s.trace }

end Eval

/-- The evaluation of sub-elements, which the kinds are built on. -/
abbrev Sub (σ : Type) := Element → Eval σ (Option Contribution)

end Peg
