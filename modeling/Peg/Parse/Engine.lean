import Peg.Parse.Combination
import Peg.Parse.Leaf

/-!
Evaluation of elements on a text.

An element produces a contribution and leaves the cursor behind its match, or
it does not match and leaves the cursor where it was. Every evaluation costs
one unit of fuel, and `eval` recurses on the number of levels that the
recursion limit leaves.
-/
namespace Peg.Engine

variable {σ : Type}

/-- A back-reference. -/
def backref (en : Engine σ) (sub : Sub σ) (name : String) (target : Nat) :
    Eval σ (Option Contribution) :=
  match en.rules.lookup target with
  | some e => sub e
  | none => throw (.danglingRule name)

/-- An element by its kind, given the evaluation of sub-elements. -/
def evalKind (en : Engine σ) (sub : Sub σ) (e : Element) : Eval σ (Option Contribution) :=
  match e.kind with
  | .literal text => literal e text
  | .pattern regex capture => pattern e regex capture
  | .sequence children => en.sequence sub children
  | .alternation children => firstOf sub children
  | .repetition child min max => en.repetition sub child min max
  | .separated item separator min max => en.separated sub item separator min max
  | .convert child _ f => convert sub e child f
  | .endOfInput => endOfInput e
  | .rule _ _ body => sub body
  | .backref name target => en.backref sub name target

/-- Evaluates an element, nested at most `room` levels deep. -/
def eval (en : Engine σ) : Nat → Sub σ
  | 0, _ => do
    -- The fuel is looked at first, so an empty tank wins over a full stack.
    Eval.spend en.limits
    throw (.recursionLimit en.limits.depth)
  | room + 1, e => do
    Eval.spend en.limits
    let entry ← Eval.cursor
    Eval.enter en.tracer e
    match ← en.evalKind (en.eval room) e with
    | some out =>
      Eval.succeed en.tracer e entry
      return some (out.decorate e.decor)
    | none =>
      Eval.fail en.tracer e
      return none

/-- Fails with what was expected. -/
def noMatch {α : Type} : Eval σ α := do
  throw (← get).furthest.error

/-- Sees to it that only skipped characters follow. -/
def demandEnd : Eval σ Unit := do
  let scanner := (← get).scanner.skipNow
  Eval.setScanner scanner
  unless scanner.atEnd do
    Eval.record scanner.cursor fun _ => "end of input"
    noMatch

/-- Evaluates the root of a grammar: its value, and where its match ends. -/
def run (en : Engine σ) (requireEnd : Bool) (root : Element) : Eval σ (Value × Nat) := do
  match ← en.eval en.limits.depth root with
  | none => noMatch
  | some out =>
    let stop ← Eval.cursor
    if requireEnd then demandEnd
    return (out.toValue root.kind.isSequence, stop.offset)

end Peg.Engine
