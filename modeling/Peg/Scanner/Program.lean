import Peg.Scanner.Basic

/-!
Programs of scanner operations: any sequence of scans, marks and returns, with
stretches in which skipping is suppressed. `Scanner.run` answers every step
and tells the state after it.
-/
namespace Peg.Scanner

/-- One operation. Marks kept outside the stack go by names. -/
inductive Step where
  | source
  | atEnd
  | remaining
  | peek
  | mark (name : String)
  | reset (name : String)
  | since (name : String)
  | pushMark
  | popMark
  | back
  | skipSet
  | suppress (steps : List Step)
  | skipNow
  | skippedPosition
  | literal (text : String)
  | set (s : CharSet)
  | char (s : CharSet)
  | regex (r : Regex)
  | lineColumn (offset : Nat)

mutual

/-- The answer to an operation. -/
inductive Reply where
  /-- The operation has nothing to tell. -/
  | done
  | flag (b : Bool)
  | number (n : Nat)
  | text (s : Option String)
  | found (m : Option Regex.Match)
  /-- The line and column of an offset, unless it lies inside a character. -/
  | place (p : Option (Nat × Nat))
  | returned (r : Except ScanError Unit)
  | steps (outcomes : List Outcome)

/-- An answer and the state that the operation left. -/
inductive Outcome where
  | mk (reply : Reply) (position marks : Nat) (skipping : Bool)

end

/-- A scanner and the marks kept by name. -/
structure Session where
  scanner : Scanner
  marks : List (String × Cursor)

namespace Session

/-- A text as an answer. -/
def textReply (cs : List Char) : Reply :=
  .text (some (String.ofList cs))

/-- Answers and stays. -/
def answer (s : Session) (r : Reply) : Reply × Session :=
  (r, s)

def goTo (s : Session) (scanner : Scanner) : Session :=
  { s with scanner := scanner }

/-- The answer to a return to a mark. -/
def returnTo (s : Session) : Except ScanError Scanner → Reply × Session
  | .ok scanner => (.returned (.ok ()), s.goTo scanner)
  | .error e => (.returned (.error e), s)

/-- The answer together with the state it left. -/
def outcome (r : Reply) (s : Session) : Outcome :=
  ⟨r, s.scanner.position, s.scanner.markDepth, s.scanner.isSkipping⟩

mutual

/-- Performs one operation. -/
def perform (s : Session) : Step → Reply × Session
  | .source => s.answer (textReply s.scanner.source)
  | .atEnd => s.answer (.flag s.scanner.atEnd)
  | .remaining => s.answer (textReply s.scanner.remaining)
  | .peek => s.answer (.text (s.scanner.peek?.map String.singleton))
  | .mark name =>
    (.number s.scanner.position, { s with marks := (name, s.scanner.cursor) :: s.marks })
  | .reset name =>
    match s.marks.lookup name with
    | some mark => (.done, s.goTo (s.scanner.reset mark))
    | none => (.done, s)
  | .since name =>
    match s.marks.lookup name with
    | some mark => s.answer (textReply (s.scanner.since mark))
    | none => (.done, s)
  | .pushMark => (.done, s.goTo s.scanner.pushMark)
  | .popMark => s.returnTo s.scanner.popMark
  | .back => s.returnTo s.scanner.back
  | .skipSet => s.answer (.text (s.scanner.skip.map CharSet.render))
  | .suppress steps =>
    let ((outcomes, marks), scanner) := s.scanner.suppressSkip fun scanner =>
      let (outcomes, s) := performAll (s.goTo scanner) steps
      ((outcomes, s.marks), s.scanner)
    (.steps outcomes, ⟨scanner, marks⟩)
  | .skipNow =>
    let scanner := s.scanner.skipNow
    (textReply (scanner.since s.scanner.cursor), s.goTo scanner)
  | .skippedPosition => s.answer (.number s.scanner.skippedPosition)
  | .literal text =>
    match s.scanner.scanLiteral? text with
    | some scanner => (.flag true, s.goTo scanner)
    | none => (.flag false, s)
  | .set set =>
    match s.scanner.scanSet? set with
    | some (run, scanner) => (textReply run, s.goTo scanner)
    | none => (.text none, s)
  | .char set =>
    match s.scanner.scanChar? set with
    | some (c, scanner) => (.text (some (String.singleton c)), s.goTo scanner)
    | none => (.text none, s)
  | .regex r =>
    match s.scanner.scanRegex? r with
    | some (m, scanner) => (.found (some m), s.goTo scanner)
    | none => (.found none, s)
  | .lineColumn offset => s.answer (.place (s.scanner.lineColumn? offset))

/-- Performs operations one after the other. -/
def performAll (s : Session) : List Step → List Outcome × Session
  | [] => ([], s)
  | step :: steps =>
    let (reply, s) := s.perform step
    let first := outcome reply s
    let (outcomes, s) := performAll s steps
    (first :: outcomes, s)

end

end Session

/-- Runs a program of operations from a scanner without named marks. -/
def run (s : Scanner) (steps : List Step) : List Outcome :=
  (Session.performAll ⟨s, []⟩ steps).1

end Peg.Scanner
