import Peg.Grammar.Printer
import Peg.Parse.State

/-!
Leaves: literals, patterns, the end of the input and typed leaves. A leaf that
does not match leaves the cursor where it was and notes what was expected.
-/
namespace Peg

/-- The groups of a match as an object: those with names, or all of them by
their numbers if none has a name. -/
def groupsValue (m : Regex.Match) : Value :=
  let value (text : Option String) : Value := text.elim .null .text
  if m.named.isEmpty then
    .object (m.positional.zipIdx.map fun (text, i) => (toString (i + 1), value text))
  else .object (m.named.map fun (name, text) => (name, value text))

/-- What a match contributes. -/
def Capture.value (capture : Capture) (m : Regex.Match) : Value :=
  match capture with
  | .text => .text m.text
  | .groups => groupsValue m

namespace Engine

variable {σ : Type}

/-- A literal. -/
def literal (e : Element) (text : String) : Eval σ (Option Contribution) := do
  let s ← get
  match s.scanner.scanLiteral? text with
  | some scanner =>
    Eval.setScanner scanner
    return some (.one (.text text))
  | none =>
    Eval.record s.scanner.skippedCursor fun _ => e.label
    return none

/-- A pattern. -/
def pattern (e : Element) (regex : Regex) (capture : Capture) : Eval σ (Option Contribution) := do
  let s ← get
  match s.scanner.scanRegex? regex with
  | some (m, scanner) =>
    Eval.setScanner scanner
    return some (.one (capture.value m))
  | none =>
    Eval.record s.scanner.skippedCursor fun _ => e.label
    return none

/-- The end of the input. -/
def endOfInput (e : Element) : Eval σ (Option Contribution) := do
  let s ← get
  let scanner := s.scanner.skipNow
  if scanner.atEnd then
    Eval.setScanner scanner
    return some .nothing
  else
    Eval.record scanner.cursor fun _ => e.label
    return none

/-- The text matched since a mark, without the skipped characters in front. -/
def matchedText (s : Scanner) (mark : Cursor) : String :=
  let text := s.since mark
  String.ofList (match s.skip with
    | some set => text.dropWhile set.contains
    | none => text)

/-- The text that a typed leaf converts: the text its child gave, or else the
text that its child matched. -/
def leafText (s : Scanner) (mark : Cursor) : Contribution → String
  | .one (.text t) => t
  | _ => matchedText s mark

/-- A typed leaf. -/
def convert (sub : Sub σ) (e child : Element) (f : String → Option Value) :
    Eval σ (Option Contribution) := do
  let mark ← Eval.cursor
  -- Failures inside the leaf are not worth a note: the leaf has its own label.
  modify fun s => { s with quiet := s.quiet + 1 }
  let result ← sub child
  modify fun s => { s with quiet := s.quiet - 1 }
  let s ← get
  match result.bind fun out => f (leafText s.scanner mark out) with
  | some v => return some (.one v)
  | none =>
    Eval.reset mark
    Eval.record (← Eval.skippedCursor) fun _ => e.label
    return none

end Engine

end Peg
