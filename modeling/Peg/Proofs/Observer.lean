import Peg.Proofs.Limits

/-!
Observers do not matter.

Whatever an observer makes of a run, the run has one history, and the observer
ends in the state to which its four functions fold this history. So all ways to
start a run come to the same.
-/
namespace Peg

variable {σ : Type}

/-- An observer is left in the state to which it folds the events of the run,
whether the run ends in a result or in an error. -/
theorem Grammar.evaluateWith_eq_replay (g : Grammar) (settings : Settings) (text : List Char)
    (tracer : Tracer σ) (init : σ) :
    (g.evaluateWith settings text tracer init).2 =
      tracer.replay init (g.events settings text) := by
  have hcompared := g.evaluateWith_compared settings text settings.limits tracer init (Or.inl rfl)
  generalize g.evaluateWith settings text tracer init = outcome at hcompared ⊢
  -- Both runs have the same limits, so neither is cut short by its own.
  cases hcompared with
  | same level => exact level.trace_eq
  | cut cut => exact absurd rfl cut.limits_ne

/-- Nor does a run depend on whether it is observed at all. -/
theorem Grammar.evaluateWith_eq_evaluatePrefix (g : Grammar) (settings : Settings)
    (text : List Char) (tracer : Tracer σ) (init : σ) :
    (g.evaluateWith settings text tracer init).1 = g.evaluatePrefix settings text := by
  calc (g.evaluateWith settings text tracer init).1
    _ = (g.evaluateWith settings text .recorder []).1 :=
      g.evaluateWith_eq_recorded settings text tracer init
    _ = g.evaluatePrefix settings text :=
      (g.evaluateWith_eq_recorded settings text .silent ()).symm

/-- Observation is inert, and the ways to start a run agree. Under the eyes of
any observer a run has the value or the error that it has without one, and the
run that also tells where the match ends has the same error, or the same value
together with this offset. The events of the run are the same for all
observers, and the state of an observer is what it folds them to. -/
theorem tracing_is_inert (g : Grammar) (settings : Settings) (text : List Char)
    (tracer : Tracer σ) (init : σ) :
    let observed := g.evaluateWith settings text tracer init
    observed.1.map (·.1) = g.evaluate settings text ∧
      observed.1 = g.evaluatePrefix settings text ∧
      (∀ e, g.evaluate settings text = .error e ↔ g.evaluatePrefix settings text = .error e) ∧
      (∀ v, g.evaluate settings text = .ok v ↔
        ∃ stop, g.evaluatePrefix settings text = .ok (v, stop)) ∧
      observed.2 = (g.events settings text).foldl tracer.observe init := by
  intro observed
  have hresult : observed.1 = g.evaluatePrefix settings text :=
    g.evaluateWith_eq_evaluatePrefix settings text tracer init
  have hevaluate : g.evaluate settings text = (g.evaluatePrefix settings text).map (·.1) := rfl
  have htrace := g.evaluateWith_eq_replay settings text tracer init
  refine ⟨?_, hresult, ?_, ?_, htrace⟩
  · rw [hresult, hevaluate]
  · intro e
    rw [hevaluate]
    cases g.evaluatePrefix settings text with
    | error _ => simp [Except.map]
    | ok _ => simp [Except.map]
  · intro v
    rw [hevaluate]
    cases g.evaluatePrefix settings text with
    | error _ => simp [Except.map]
    | ok result =>
      obtain ⟨value, stop⟩ := result
      simp [Except.map]

end Peg
