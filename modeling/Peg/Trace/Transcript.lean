import Peg.Grammar.Printer
import Peg.Palette
import Peg.Text.Cursor
import Peg.Trace.Event

/-!
A log of a parse, with a line for every match and failure, indented by the
elements around it. The verbose log also tells when elements are entered, when
the cursor goes back, and what text was matched.
-/
namespace Peg

/-- How much a log tells. -/
inductive Verbosity where
  /-- Matches and failures. -/
  | brief
  /-- Entries, backtracking and matched text as well. -/
  | verbose
deriving DecidableEq, Repr

/-- A line of the log: an event, and how many elements are open around it. -/
structure LogLine where
  depth : Nat
  event : Event

/-- A log as it is written. -/
structure Transcript where
  depth : Nat := 0
  /-- The lines so far, the last first. -/
  lines : List LogLine := []

/-- The text between two offsets, empty unless they are boundaries in order. -/
def textBetween (text : List Char) (start stop : Nat) : List Char :=
  match Cursor.ofOffset? text start, Cursor.ofOffset? text stop with
  | some a, some b => a.upTo b
  | _, _ => []

namespace Transcript

/-- Adds a line at the present depth. -/
def push (t : Transcript) (event : Event) : Transcript :=
  { t with lines := ⟨t.depth, event⟩ :: t.lines }

/-- The observer that writes a log. -/
def tracer (verbosity : Verbosity) : Tracer Transcript where
  enter e position t :=
    let t := if verbosity = .verbose then t.push (.enter e position) else t
    { t with depth := t.depth + 1 }
  success e start stop t := push { t with depth := t.depth - 1 } (.success e start stop)
  failure e position t := push { t with depth := t.depth - 1 } (.failure e position)
  backtrack start stop t := if verbosity = .verbose then t.push (.backtrack start stop) else t

end Transcript

/-- How a log is shown: whose text it is about, how much it tells, and in which
colours. -/
structure LogStyle where
  source : List Char
  verbosity : Verbosity
  palette : Palette

namespace LogStyle

def element (st : LogStyle) (e : Element) : List Char :=
  st.palette.paint st.palette.blue e.display.toList

def dim (st : LogStyle) (text : String) : List Char :=
  st.palette.paint st.palette.dim text.toList

/-- An event in text, without indentation. -/
def eventChars (st : LogStyle) : Event → List Char
  | .enter e position => st.element e ++ ' ' :: st.dim ("@" ++ toString position)
  | .success e start stop =>
    let line := st.element e ++ ' ' :: (st.palette.paint st.palette.green ['✓']
      ++ ' ' :: st.dim (toString start ++ ".." ++ toString stop))
    if st.verbosity = .verbose then
      let text := Quoted.text (String.ofList (textBetween st.source start stop))
      line ++ ' ' :: st.palette.paint st.palette.green text.toList
    else line
  | .failure e position =>
    st.element e ++ ' ' :: (st.palette.paint st.palette.red ['✗']
      ++ ' ' :: st.dim ("@" ++ toString position))
  | .backtrack start stop =>
    st.dim ("backtrack " ++ toString start ++ " -> " ++ toString stop)

/-- A line of the log, two blanks further in for each element around it. -/
def lineChars (st : LogStyle) (l : LogLine) : List Char :=
  List.replicate (2 * l.depth) ' ' ++ st.eventChars l.event

/-- The lines of a log in order. -/
def lines (st : LogStyle) (t : Transcript) : List String :=
  t.lines.reverse.map fun l => String.ofList (st.lineChars l)

/-- A log as one text. -/
def dump (st : LogStyle) (t : Transcript) : String :=
  "\n".intercalate (st.lines t)

end LogStyle

end Peg
