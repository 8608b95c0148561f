import Peg.Parse.Engine

/-!
Parsing a text with a grammar: the settings of a run and the ways to start it.
-/
namespace Peg

/-- How a grammar is run. -/
structure Settings where
  /-- The characters that are skipped before literals and patterns. -/
  skip : Option CharSet := some CharSet.blanks
  limits : Limits := {}
  /-- Whether nothing but skipped characters may follow the match. -/
  requireEnd : Bool := false

namespace Grammar

variable {σ : Type}

/-- The state in which a run starts. -/
def startState (settings : Settings) (text : List Char) (trace : σ) : State σ where
  scanner := Scanner.ofText text settings.skip
  fuel := settings.limits.fuel
  depth := 0
  quiet := 0
  furthest := ⟨Cursor.start text, []⟩
  trace := trace

/-- Runs a grammar under the eyes of an observer. The result is the value and
the offset at which the match ends, or an error; the state of the observer is
there in any case. -/
def evaluateWith (g : Grammar) (settings : Settings) (text : List Char) (tracer : Tracer σ)
    (trace : σ) : Except ParseError (Value × Nat) × σ :=
  let en : Engine σ := ⟨g.rules, settings.limits, tracer⟩
  match en.run settings.requireEnd g.root (startState settings text trace) with
  | .ok result s => (.ok result, s.trace)
  | .error e s => (.error e, s.trace)

/-- Runs a grammar and tells where its match ends. -/
def evaluatePrefix (g : Grammar) (settings : Settings) (text : List Char) :
    Except ParseError (Value × Nat) :=
  (g.evaluateWith settings text .silent ()).1

/-- Runs a grammar. -/
def evaluate (g : Grammar) (settings : Settings) (text : List Char) : Except ParseError Value :=
  (g.evaluatePrefix settings text).map (·.1)

/-- Matches a grammar at the start of a text, skipping blanks. -/
def parse (g : Grammar) (text : List Char) : Except ParseError Value :=
  g.evaluate {} text

/-- Matches a grammar at the start of a text and tells where the match ends. -/
def parsePrefix (g : Grammar) (text : List Char) : Except ParseError (Value × Nat) :=
  g.evaluatePrefix {} text

/-- Matches a grammar to a whole text. -/
def parseAll (g : Grammar) (text : List Char) : Except ParseError Value :=
  g.evaluate { requireEnd := true } text

/-- All that can be observed of a run, in order. -/
def events (g : Grammar) (settings : Settings) (text : List Char) : List Event :=
  (g.evaluateWith settings text .recorder []).2.reverse

end Grammar

end Peg
