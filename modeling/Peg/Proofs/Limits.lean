import Peg.Grammar.Combinator
import Peg.Proofs.SideBySide

/-!
Limits are sharp and otherwise invisible.

A run that its limits let end tells by its history what it needs: as much fuel
as it opened evaluations, and as much depth as were open at once. Under any
limits that allow for this the run is the same, and under any others it ends
with the error of a limit, at the point where the limit is reached.
-/
namespace Peg

open Event

variable {σ α : Type}

/-- What is told of a run when it has ended. -/
def report (r : EStateM.Result ParseError (State σ) α) : Except ParseError α × σ :=
  match r with
  | .ok a s => (.ok a, s.trace)
  | .error e s => (.error e, s.trace)

/-- What comes of the second run, if the first one has the history `es` and the
result `r`. -/
inductive Pair.Compared (p : Pair σ) (es : List Event) (r : Except ParseError α) :
    Except ParseError α × σ → Prop
  | same {trace : σ} (level : p.Level es trace) : Compared p es r (r, trace)
  | cut {e : ParseError} {trace : σ} {before : List Event} (cut : p.CutAt es e trace before) :
      Compared p es r (.error e, trace)

theorem Pair.Agree.compared {p : Pair σ} {d : Nat}
    {r : EStateM.Result ParseError (State (List Event)) α}
    {r' : EStateM.Result ParseError (State σ) α} (h : p.Agree d r r') :
    p.Compared (report r).2.reverse (report r).1 (report r') := by
  cases h with
  | ok abreast => exact .same abreast.level
  | error level => exact .same level
  | cutResult cut =>
    obtain ⟨before, hcut⟩ := cut
    exact .cut hcut
  | cutError cut =>
    obtain ⟨before, hcut⟩ := cut
    exact .cut hcut

theorem Pair.fair_of_report {p : Pair σ} {r : EStateM.Result ParseError (State (List Event)) α}
    (h : ∀ e, (report r).1 = .error e → ¬ e.IsLimit) : p.Fair r := by
  refine Or.inr ?_
  rintro e s rfl
  exact h e rfl

namespace Grammar

/-- A recorded run of a grammar beside a run under other limits and the eyes of
another observer. -/
def beside (g : Grammar) (settings : Settings) (limits : Limits) (tracer : Tracer σ) (init : σ) :
    Pair σ :=
  ⟨g.rules, settings.limits, limits, tracer, init⟩

variable {g : Grammar} {settings : Settings} {text : List Char}

theorem abreast_start (limits : Limits) (tracer : Tracer σ) (init : σ) :
    (g.beside settings limits tracer init).Abreast 0 (startState settings text [])
      (startState { settings with limits := limits } text init) where
  scanner := rfl
  quiet := rfl
  furthest := rfl
  depth := rfl
  depth' := rfl
  open_eq := rfl
  fuel := rfl
  fuel' := rfl
  level := ⟨rfl, Nat.zero_le _, Nat.zero_le _⟩

theorem evaluateWith_eq_report (tracer : Tracer σ) (init : σ) :
    g.evaluateWith settings text tracer init =
      report (Engine.run ⟨g.rules, settings.limits, tracer⟩ settings.requireEnd g.root
        (startState settings text init)) := by
  unfold evaluateWith
  dsimp only
  cases Engine.run ⟨g.rules, settings.limits, tracer⟩ settings.requireEnd g.root
    (startState settings text init) with
  | ok result s => rfl
  | error e s => rfl

/-- A run of a grammar compares with a recorded run that does not fail by a
limit, and with a recorded run under the same limits. -/
theorem evaluateWith_compared (g : Grammar) (settings : Settings) (text : List Char)
    (limits : Limits) (tracer : Tracer σ) (init : σ)
    (h : settings.limits = limits ∨
      ∀ e, (g.evaluateWith settings text .recorder []).1 = .error e → ¬ e.IsLimit) :
    (g.beside settings limits tracer init).Compared (g.events settings text)
      (g.evaluateWith settings text .recorder []).1
      (g.evaluateWith { settings with limits := limits } text tracer init) := by
  have hrun := Pair.run_lockstep (g.beside settings limits tracer init) settings.requireEnd g.root
  unfold events
  rw [evaluateWith_eq_report] at h
  rw [evaluateWith_eq_report, evaluateWith_eq_report]
  apply Pair.Agree.compared
  apply hrun.agree _ _ (abreast_start limits tracer init)
  rcases h with hlimits | hlimit
  · exact Or.inl hlimits
  · exact Pair.fair_of_report hlimit

/-- The result of a run does not depend on its observer. -/
theorem evaluateWith_eq_recorded (g : Grammar) (settings : Settings) (text : List Char)
    (tracer : Tracer σ) (init : σ) :
    (g.evaluateWith settings text tracer init).1 =
      (g.evaluateWith settings text .recorder []).1 := by
  have hcompared := evaluateWith_compared g settings text settings.limits tracer init (Or.inl rfl)
  generalize hrun : g.evaluateWith settings text tracer init = outcome at hcompared ⊢
  cases hcompared with
  | same level => rfl
  | cut cut => exact absurd rfl cut.limits_ne

/-- Under other limits a run does all that it did before, or it ends with the
error of one of them. -/
theorem limited_run (g : Grammar) (settings : Settings) (text : List Char) (limits : Limits)
    (h : ∀ e, g.evaluatePrefix settings text = .error e → ¬ e.IsLimit) :
    let limited : Settings := { settings with limits := limits }
    (g.evaluatePrefix limited text = g.evaluatePrefix settings text ∧
        g.events limited text = g.events settings text ∧
        enters (g.events settings text) ≤ limits.fuel ∧
        peak (g.events settings text) ≤ limits.depth) ∨
      (g.events limited text <+: g.events settings text ∧
        ((g.evaluatePrefix limited text = .error (.fuelExhausted limits.fuel) ∧
            enters (g.events limited text) = limits.fuel ∧
            limits.fuel < enters (g.events settings text)) ∨
          (g.evaluatePrefix limited text = .error (.recursionLimit limits.depth) ∧
            openAfter (g.events limited text) = limits.depth ∧
            limits.depth < peak (g.events settings text)))) := by
  intro limited
  -- Both runs may as well be recorded.
  have hrecorded : ∀ settings, g.evaluatePrefix settings text =
      (g.evaluateWith settings text .recorder []).1 :=
    fun settings => evaluateWith_eq_recorded g settings text .silent ()
  have hreplay : ∀ {trace es : List Event}, trace = Tracer.recorder.replay [] es →
      trace.reverse = es := by
    intro trace es htrace
    rw [htrace, Tracer.replay_recorder, List.reverse_reverse]
  have hcompared := evaluateWith_compared g settings text limits .recorder []
    (Or.inr (hrecorded settings ▸ h))
  have hevents : g.events limited text =
      (g.evaluateWith limited text .recorder []).2.reverse := rfl
  rw [hrecorded, hrecorded, hevents]
  generalize g.evaluateWith limited text .recorder [] = outcome at hcompared ⊢
  cases hcompared with
  | same level =>
    refine Or.inl ⟨rfl, hreplay level.trace_eq, level.enters_le, level.peak_le⟩
  | cut cut =>
    refine Or.inr ?_
    rw [hreplay cut.trace_eq]
    refine ⟨cut.earlier, ?_⟩
    rcases cut.reason with ⟨rfl, hcut, hmore⟩ | ⟨rfl, hcut, hmore⟩
    · exact Or.inl ⟨rfl, hcut, hmore⟩
    · exact Or.inr ⟨rfl, hcut, hmore⟩

end Grammar

/-- Limits are sharp and otherwise invisible. A run that does not end with the
error of a limit needs as much fuel as it opens evaluations, and as much depth
as it has open at once. With so much of both nothing changes. With too little
of one the run ends with the error of this limit at the point where it is
reached, and nothing on the way can make up for it. What was observed until
then is in any case what would have been observed without the limit. -/
theorem limits_are_sharp (g : Grammar) (settings : Settings) (text : List Char) (limits : Limits)
    (h : ∀ e, g.evaluatePrefix settings text = .error e → ¬ e.IsLimit) :
    let limited : Settings := { settings with limits := limits }
    let n := enters (g.events settings text)
    let d := peak (g.events settings text)
    (n ≤ limits.fuel → d ≤ limits.depth →
        g.evaluatePrefix limited text = g.evaluatePrefix settings text ∧
          g.events limited text = g.events settings text) ∧
      (limits.fuel < n → d ≤ limits.depth →
        g.evaluatePrefix limited text = .error (.fuelExhausted limits.fuel) ∧
          enters (g.events limited text) = limits.fuel) ∧
      (limits.depth < d → n ≤ limits.fuel →
        g.evaluatePrefix limited text = .error (.recursionLimit limits.depth) ∧
          openAfter (g.events limited text) = limits.depth) ∧
      (limits.fuel < n ∨ limits.depth < d →
        ∃ e, g.evaluatePrefix limited text = .error e ∧ e.IsLimit) ∧
      g.events limited text <+: g.events settings text := by
  intro limited n d
  rcases g.limited_run settings text limits h with
    ⟨hresult, hevents, hfuel, hdepth⟩ | ⟨hearlier, hcut⟩
  · refine ⟨?_, ?_, ?_, ?_, ?_⟩
    · intro _ _
      exact ⟨hresult, hevents⟩
    · intro hless _
      exact absurd hless (Nat.not_lt.mpr hfuel)
    · intro hless _
      exact absurd hless (Nat.not_lt.mpr hdepth)
    · intro hless
      omega
    · exact hevents ▸ List.prefix_rfl
  · rcases hcut with ⟨hresult, hopened, hless⟩ | ⟨hresult, hopen, hless⟩
    · refine ⟨?_, ?_, ?_, ?_, hearlier⟩
      · intro hfuel _
        exact absurd hless (Nat.not_lt.mpr hfuel)
      · intro _ _
        exact ⟨hresult, hopened⟩
      · intro _ hfuel
        exact absurd hless (Nat.not_lt.mpr hfuel)
      · intro _
        exact ⟨_, hresult, _, Or.inl rfl⟩
    · refine ⟨?_, ?_, ?_, ?_, hearlier⟩
      · intro _ hdepth
        exact absurd hless (Nat.not_lt.mpr hdepth)
      · intro _ hdepth
        exact absurd hless (Nat.not_lt.mpr hdepth)
      · intro _ _
        exact ⟨hresult, hopen⟩
      · intro _
        exact ⟨_, hresult, _, Or.inr rfl⟩

/-- The last alternative takes the fifth evaluation, at a depth of three. With
less of either the choice does not fail but ends the run. -/
theorem choice_limits :
    let g : Grammar := ⟨.sequence [.literal "a", .alternation [.literal "b", .literal "c"]], []⟩
    (g.evaluatePrefix { limits := ⟨4, 3⟩ } ['a', 'c'] = .error (.fuelExhausted 4) ∧
        enters (g.events { limits := ⟨4, 3⟩ } ['a', 'c']) = 4) ∧
      (g.evaluatePrefix { limits := ⟨5, 2⟩ } ['a', 'c'] = .error (.recursionLimit 2) ∧
        openAfter (g.events { limits := ⟨5, 2⟩ } ['a', 'c']) = 2) ∧
      g.evaluatePrefix { limits := ⟨5, 3⟩ } ['a', 'c'] = g.evaluatePrefix {} ['a', 'c'] := by
  intro g
  have hends : ∀ e, g.evaluatePrefix {} ['a', 'c'] = .error e → ¬ e.IsLimit := by
    have hok : (g.evaluatePrefix {} ['a', 'c']).isOk = true := by decide +kernel
    intro e he
    rw [he] at hok
    cases hok
  have hfuel : enters (g.events {} ['a', 'c']) = 5 := by decide +kernel
  have hdepth : peak (g.events {} ['a', 'c']) = 3 := by decide +kernel
  refine ⟨?_, ?_, ?_⟩
  · exact (limits_are_sharp g {} _ ⟨4, 3⟩ hends).2.1 (by simp [hfuel]) (by simp [hdepth])
  · exact (limits_are_sharp g {} _ ⟨5, 2⟩ hends).2.2.1 (by simp [hdepth]) (by simp [hfuel])
  · exact ((limits_are_sharp g {} _ ⟨5, 3⟩ hends).1 (by simp [hfuel]) (by simp [hdepth])).1

end Peg
