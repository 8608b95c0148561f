import Peg.Grammar.Element

/-!
What can be observed of a parse: elements are entered, match or fail, and a
partial match is given up. A tracer is four functions that fold these events
into a state of any type.
-/
namespace Peg

/-- One observation. Positions are offsets in bytes. -/
inductive Event where
  /-- Before an element is evaluated. -/
  | enter (e : Element) (position : Nat)
  /-- After an element matched the text from `start` to `stop`. -/
  | success (e : Element) (start stop : Nat)
  /-- After an element failed, back at the position where it started. -/
  | failure (e : Element) (position : Nat)
  /-- When the cursor goes back from a partial match. -/
  | backtrack (start stop : Nat)

/-- An observer with a state of type `σ`. -/
structure Tracer (σ : Type) where
  enter : Element → Nat → σ → σ
  success : Element → Nat → Nat → σ → σ
  failure : Element → Nat → σ → σ
  backtrack : Nat → Nat → σ → σ

namespace Tracer

/-- The state after an event. -/
def observe {σ : Type} (t : Tracer σ) (s : σ) : Event → σ
  | .enter e position => t.enter e position s
  | .success e start stop => t.success e start stop s
  | .failure e position => t.failure e position s
  | .backtrack start stop => t.backtrack start stop s

/-- The observer that looks away. -/
def silent : Tracer Unit where
  enter _ _ s := s
  success _ _ _ s := s
  failure _ _ s := s
  backtrack _ _ s := s

/-- The observer that keeps all events, the last first. -/
def recorder : Tracer (List Event) where
  enter e position s := .enter e position :: s
  success e start stop s := .success e start stop :: s
  failure e position s := .failure e position :: s
  backtrack start stop s := .backtrack start stop :: s

end Tracer

end Peg
