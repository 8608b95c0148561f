import Peg.Proofs.BigStep
import Peg.Proofs.Outcome
import Peg.Proofs.Scan

/-!
What leaves come to. A leaf has no sub-elements, so its outcome is a function
of where it stands, and it costs nothing beyond its own evaluation.
-/
namespace Peg.BigStep

open Eval

variable {σ : Type} {k : Context} {s t : State σ}

/-- A step from `s` spent `n` units of fuel and came to the outcome `o`. -/
def Reaches (n : Nat) (s : State σ) (o : Outcome) (r : Option Contribution) (t : State σ) :
    Prop :=
  Kept n s t ∧ r.map (·, t.scanner.cursor) = o ∧ (r = none → t.scanner.cursor = s.scanner.cursor)

theorem contextOf_eq_of_kept {n : Nat} {rules : RuleTable} (h : Kept n s t) :
    contextOf rules t = contextOf rules s := by
  simp [contextOf, h.skip, h.suppressed]

theorem skippedCursor_eq (hs : contextOf k.rules s = k) :
    s.scanner.skippedCursor = k.skipped s.scanner.cursor := by
  rw [← hs]
  rfl

theorem leafText_eq (ht : contextOf k.rules t = k) (c : Cursor) (out : Contribution) :
    Engine.leafText t.scanner c out = k.token c t.scanner.cursor out := by
  rw [← ht]
  rfl

/-- A leaf that matches moves the cursor and nothing else. -/
theorem reaches_moved (out : Contribution) (d : Cursor) :
    Reaches 0 s (some (out, d)) (some out) { s with scanner := s.scanner.reset d } :=
  ⟨(Kept.refl s).moved _ _ _, rfl, nofun⟩

/-- A leaf that does not match leaves a note and stays. -/
theorem reaches_noted (f : Furthest) : Reaches 0 s none none { s with furthest := f } :=
  ⟨(Kept.refl s).moved _ _ _, rfl, fun _ => rfl⟩

section

variable {fault : ParseError → State σ → Prop} (e : Element)

theorem literal_reaches (text : String) (hs : contextOf k.rules s = k) :
    Leads (Engine.literal e text) s (Reaches 0 s
      ((Scanner.dropWord? text.toList (k.skipped s.scanner.cursor).after).map fun rest =>
        (.one (.text text), (k.skipped s.scanner.cursor).past text.toList rest))) fault := by
  unfold Engine.literal
  simp only [leads_bind, leads_get, Scanner.scanLiteral?, skippedCursor_eq hs]
  cases Scanner.dropWord? text.toList (k.skipped s.scanner.cursor).after with
  | none =>
    simp only [Option.map_none, leads_bind]
    exact leads_record reaches_noted
  | some rest =>
    simp only [Option.map_some, leads_bind, leads_setScanner]
    exact reaches_moved _ _

theorem pattern_reaches (regex : Regex) (capture : Capture) (hs : contextOf k.rules s = k) :
    Leads (Engine.pattern e regex capture) s (Reaches 0 s
      ((regex.matchFrom (k.skipped s.scanner.cursor)).map fun m =>
        (.one (capture.value m), m.stop))) fault := by
  unfold Engine.pattern
  simp only [leads_bind, leads_get, Scanner.scanRegex?, skippedCursor_eq hs]
  cases regex.matchFrom (k.skipped s.scanner.cursor) with
  | none =>
    simp only [Option.map_none, leads_bind]
    exact leads_record reaches_noted
  | some m =>
    simp only [Option.map_some, leads_bind, leads_setScanner]
    exact reaches_moved _ _

theorem endOfInput_reaches (hs : contextOf k.rules s = k) :
    Leads (Engine.endOfInput e) s (Reaches 0 s
      (if (k.skipped s.scanner.cursor).after = [] then some (.nothing, k.skipped s.scanner.cursor)
        else none)) fault := by
  unfold Engine.endOfInput
  simp only [leads_bind, leads_get, Scanner.skipNow, skippedCursor_eq hs]
  by_cases hover : (k.skipped s.scanner.cursor).after = []
  · simp only [Scanner.atEnd, Cursor.atEnd, hover, List.isEmpty_nil, if_true, leads_bind,
      leads_setScanner]
    exact reaches_moved _ _
  · have hmore : (k.skipped s.scanner.cursor).after.isEmpty = false := by simpa using hover
    simp only [Scanner.atEnd, Cursor.atEnd, hmore, hover, if_false, Bool.false_eq_true, leads_bind]
    exact leads_record reaches_noted

end

end Peg.BigStep
