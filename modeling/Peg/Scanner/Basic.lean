import Peg.CharSet.Basic
import Peg.Regex.Basic

/-!
A cursor that scans a text and can go back.

Every scan succeeds and moves on, or fails and leaves the scanner as it was.
Literals and patterns first jump over characters of the skip set; runs and
single characters do not. Attempts of several steps go back to a mark, which
is a cursor kept by the caller or on the scanner's own stack.
-/
namespace Peg

/-- A wrong use of the mark stack. -/
inductive ScanError where
  /-- A mark was to be dropped when there was none. -/
  | markUnderflow
deriving DecidableEq, Repr

def ScanError.message : ScanError → String
  | markUnderflow => "mark stack underflow: no outstanding mark to restore"

/-- The state of a scan. -/
structure Scanner where
  cursor : Cursor
  /-- The marks on the stack, the newest first. -/
  marks : List Cursor
  /-- The characters that literals and patterns jump over. -/
  skip : Option CharSet
  /-- How often skipping has been suppressed; it is active at zero. -/
  suppressed : Nat

namespace Scanner

/-- A scanner at the start of a text. -/
def ofText (text : List Char) (skip : Option CharSet) : Scanner :=
  ⟨Cursor.start text, [], skip, 0⟩

/-- The whole text. -/
def source (s : Scanner) : List Char :=
  s.cursor.text

/-- The offset of the cursor in bytes. -/
def position (s : Scanner) : Nat :=
  s.cursor.offset

def atEnd (s : Scanner) : Bool :=
  s.cursor.atEnd

/-- The text ahead. -/
def remaining (s : Scanner) : List Char :=
  s.cursor.after

def peek? (s : Scanner) : Option Char :=
  s.cursor.peek?

/-- The text passed since a mark. -/
def since (s : Scanner) (mark : Cursor) : List Char :=
  mark.upTo s.cursor

/-- Goes to a mark. -/
def reset (s : Scanner) (mark : Cursor) : Scanner :=
  { s with cursor := mark }

/-- Puts the cursor on the mark stack. -/
def pushMark (s : Scanner) : Scanner :=
  { s with marks := s.cursor :: s.marks }

/-- Drops the newest mark and stays where it is. -/
def popMark (s : Scanner) : Except ScanError Scanner :=
  match s.marks with
  | [] => .error .markUnderflow
  | _ :: marks => .ok { s with marks := marks }

/-- Drops the newest mark and goes back to it. -/
def back (s : Scanner) : Except ScanError Scanner :=
  match s.marks with
  | [] => .error .markUnderflow
  | mark :: marks => .ok { s with cursor := mark, marks := marks }

def markDepth (s : Scanner) : Nat :=
  s.marks.length

/-- Whether the next literal or pattern jumps over the skip set. -/
def isSkipping (s : Scanner) : Bool :=
  s.skip.isSome && s.suppressed == 0

/-- Runs `body` without skipping, and skips as before when it is done. -/
def suppressSkip {α : Type} (s : Scanner) (body : Scanner → α × Scanner) : α × Scanner :=
  let (result, s) := body { s with suppressed := s.suppressed + 1 }
  (result, { s with suppressed := s.suppressed - 1 })

/-- Where the next literal or pattern is looked for. -/
def skippedCursor (s : Scanner) : Cursor :=
  match s.skip with
  | some set => if s.suppressed = 0 then s.cursor.skipWhile set.contains else s.cursor
  | none => s.cursor

def skippedPosition (s : Scanner) : Nat :=
  s.skippedCursor.offset

/-- Jumps over the skip set now. -/
def skipNow (s : Scanner) : Scanner :=
  { s with cursor := s.skippedCursor }

/-- What follows `word` in a text that starts with it. -/
def dropWord? : List Char → List Char → Option (List Char)
  | [], rest => some rest
  | _ :: _, [] => none
  | w :: word, c :: rest => if w = c then dropWord? word rest else none

/-- Passes a literal after skipping. The empty literal is found everywhere. -/
def scanLiteral? (s : Scanner) (literal : String) : Option Scanner :=
  let c := s.skippedCursor
  let word := literal.toList
  (dropWord? word c.after).map fun rest => { s with cursor := c.past word rest }

/-- Passes the longest run of characters of a set, without skipping. -/
def scanSet? (s : Scanner) (set : CharSet) : Option (List Char × Scanner) :=
  match s.cursor.after.takeWhile set.contains with
  | [] => none
  | run => some (run, { s with cursor := s.cursor.skipWhile set.contains })

/-- Passes one character of a set, without skipping. -/
def scanChar? (s : Scanner) (set : CharSet) : Option (Char × Scanner) :=
  match s.cursor.after with
  | [] => none
  | c :: rest => if set.contains c then some (c, { s with cursor := s.cursor.step c rest }) else none

/-- Passes what a pattern matches after skipping. -/
def scanRegex? (s : Scanner) (regex : Regex) : Option (Regex.Match × Scanner) :=
  (regex.matchFrom s.skippedCursor).map fun m => (m, { s with cursor := m.stop })

/-- The line and column of an offset; beyond the end, those of the end.
There is none inside a character. -/
def lineColumn? (s : Scanner) (offset : Nat) : Option (Nat × Nat) :=
  (Cursor.ofOffset? s.source (min offset (byteLength s.source))).map fun c => (c.line, c.column)

end Scanner

end Peg
