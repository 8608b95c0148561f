import Peg.Proofs.Fuel
import Peg.Proofs.History

/-!
Two runs of one grammar side by side.

The first run is recorded. The second has limits and an observer of its own.
As long as its limits last it does what the first run does, step by step, and
its observer sees what is recorded; where they do not last, it ends at once
with the error of the limit, whatever it was about to try.
-/
namespace Peg

/-- Two ways to run the same rules. -/
structure Pair (σ : Type) where
  rules : RuleTable
  /-- The limits of the first run. -/
  limits : Limits
  /-- The limits of the second run. -/
  limits' : Limits
  /-- The observer of the second run. -/
  tracer : Tracer σ
  init : σ

/-- The error of a limit. -/
def ParseError.IsLimit (e : ParseError) : Prop :=
  ∃ limit, e = .fuelExhausted limit ∨ e = .recursionLimit limit

/-- What a recorded state has seen, in order. -/
def State.history (s : State (List Event)) : List Event :=
  s.trace.reverse

namespace Pair

open Eval Event

variable {σ α β : Type} (p : Pair σ)

/-- The engine of the first run. -/
def first : Engine (List Event) :=
  ⟨p.rules, p.limits, .recorder⟩

/-- The engine of the second run. -/
def second : Engine σ :=
  ⟨p.rules, p.limits', p.tracer⟩

/-- The observer of the second run has seen the history, which is within the
limits of the second run. -/
structure Level (es : List Event) (trace : σ) : Prop where
  trace_eq : trace = p.tracer.replay p.init es
  enters_le : enters es ≤ p.limits'.fuel
  peak_le : peak es ≤ p.limits'.depth

/-- The two runs stand at the same point with `d` evaluations open. They differ
in what they have left of their limits and in what their observers make of
the history. -/
structure Abreast (d : Nat) (s : State (List Event)) (t : State σ) : Prop where
  scanner : t.scanner = s.scanner
  quiet : t.quiet = s.quiet
  furthest : t.furthest = s.furthest
  depth : s.depth = d
  depth' : t.depth = d
  open_eq : openAfter s.history = d
  fuel : s.fuel + enters s.history = p.limits.fuel
  fuel' : t.fuel + enters s.history = p.limits'.fuel
  level : p.Level s.history t.trace

/-- The second run ended with the error of a limit after `cut`, at a point where
the first run went on beyond this limit to the history `es`. -/
structure CutAt (es : List Event) (e : ParseError) (trace : σ) (cut : List Event) : Prop where
  earlier : cut <+: es
  trace_eq : trace = p.tracer.replay p.init cut
  limits_ne : p.limits ≠ p.limits'
  reason : (e = .fuelExhausted p.limits'.fuel ∧ enters cut = p.limits'.fuel ∧
      p.limits'.fuel < enters es) ∨
    (e = .recursionLimit p.limits'.depth ∧ openAfter cut = p.limits'.depth ∧
      p.limits'.depth < peak es)

/-- The outcomes of a step in the two runs: the same result or the same error,
or the second run is cut short. -/
inductive Agree (d : Nat) :
    EStateM.Result ParseError (State (List Event)) α →
      EStateM.Result ParseError (State σ) α → Prop
  | ok {a : α} {s : State (List Event)} {t : State σ} (abreast : p.Abreast d s t) :
      Agree d (.ok a s) (.ok a t)
  | error {e : ParseError} {s : State (List Event)} {t : State σ}
      (level : p.Level s.history t.trace) : Agree d (.error e s) (.error e t)
  | cutResult {a : α} {e : ParseError} {s : State (List Event)} {t : State σ}
      (cut : ∃ before, p.CutAt s.history e t.trace before) : Agree d (.ok a s) (.error e t)
  | cutError {e e' : ParseError} {s : State (List Event)} {t : State σ}
      (cut : ∃ before, p.CutAt s.history e' t.trace before) : Agree d (.error e s) (.error e' t)

/-- The first run does not fail by a limit of its own, unless both runs have
the same limits. -/
def Fair (r : EStateM.Result ParseError (State (List Event)) α) : Prop :=
  p.limits = p.limits' ∨ ∀ e s, r = .error e s → ¬ e.IsLimit

/-- Whatever the step does from the state `s`, it only adds to the events in
`trace`. -/
def Extends (m : Eval (List Event) α) (s : State (List Event)) (trace : List Event) : Prop :=
  Leads m s (fun _ t => trace <:+ t.trace) fun _ t => trace <:+ t.trace

/-- Taken with `d` evaluations open, the steps of the two runs agree and leave
`d'` evaluations open. Whatever the first one does, its history only grows. -/
structure Lockstep (d d' : Nat) (m : Eval (List Event) α) (m' : Eval σ α) : Prop where
  grows : ∀ s, Extends m s s.trace
  agree : ∀ s t, p.Abreast d s t → p.Fair (m s) → p.Agree d' (m s) (m' t)

variable {p}

theorem Fair.of_ok (a : α) (s : State (List Event)) : p.Fair (.ok a s) :=
  Or.inr nofun

theorem Fair.of_error {e : ParseError} {s : State (List Event)}
    (h : p.Fair (.error e s : EStateM.Result ParseError (State (List Event)) α)) :
    p.Fair (.error e s : EStateM.Result ParseError (State (List Event)) β) := by
  rcases h with hlimits | hlimit
  · exact Or.inl hlimits
  · refine Or.inr ?_
    intro e' s' heq
    cases heq
    exact hlimit e s rfl

theorem Fair.limits_eq {e : ParseError} {s : State (List Event)}
    (h : p.Fair (.error e s : EStateM.Result ParseError (State (List Event)) α))
    (he : e.IsLimit) : p.limits = p.limits' := by
  rcases h with hlimits | hlimit
  · exact hlimits
  · exact absurd he (hlimit e s rfl)

theorem history_mono {s t : State (List Event)} (h : s.trace <:+ t.trace) :
    s.history <+: t.history := by
  simpa [State.history] using h

/-- An event that opens no evaluation keeps the history within the limits. -/
theorem Level.add {es : List Event} {trace : σ} {ev : Event} (h : p.Level es trace)
    (hev : ev.isEnter = false) : p.Level (es ++ [ev]) (p.tracer.observe trace ev) where
  trace_eq := by rw [Tracer.replay_concat, ← h.trace_eq]
  enters_le := by
    have := h.enters_le
    simpa [enters_concat, hev] using this
  peak_le := by
    have hpeak := h.peak_le
    have hlevel := level_le hev (openAfter es)
    have hopen : openAfter es ≤ peak es := openAfter_le_peak List.prefix_rfl
    rw [peak_concat, openAfter_concat]
    omega

/-- Both observers see an event that opens no evaluation. -/
theorem Abreast.add {d : Nat} {s : State (List Event)} {t : State σ} (h : p.Abreast d s t)
    (ev : Event) (hev : ev.isEnter = false) :
    p.Abreast (ev.level d) { s with depth := ev.level s.depth, trace := ev :: s.trace }
      { t with depth := ev.level t.depth, trace := p.tracer.observe t.trace ev } := by
  have hhistory : State.history { s with depth := ev.level s.depth, trace := ev :: s.trace } =
      s.history ++ [ev] := List.reverse_cons
  have henters : enters (s.history ++ [ev]) = enters s.history := by simp [enters_concat, hev]
  refine ⟨h.scanner, h.quiet, h.furthest, by rw [h.depth], by rw [h.depth'], ?_, ?_, ?_, ?_⟩
  · rw [hhistory, openAfter_concat, h.open_eq]
  · rw [hhistory, henters]
    exact h.fuel
  · rw [hhistory, henters]
    exact h.fuel'
  · rw [hhistory]
    exact h.level.add hev

/-- Under the same limits both runs have the same fuel left. -/
theorem Abreast.fuel_eq {d : Nat} {s : State (List Event)} {t : State σ} (h : p.Abreast d s t)
    (hlimits : p.limits = p.limits') : t.fuel = s.fuel := by
  have hfuel := h.fuel
  have hfuel' := h.fuel'
  rw [← hlimits] at hfuel'
  omega

theorem CutAt.mono {es es' cut : List Event} {e : ParseError} {trace : σ}
    (h : p.CutAt es e trace cut) (hes : es <+: es') : p.CutAt es' e trace cut where
  earlier := h.earlier.trans hes
  trace_eq := h.trace_eq
  limits_ne := h.limits_ne
  reason := by
    have henters := enters_mono hes
    have hpeak := peak_mono hes
    rcases h.reason with ⟨he, hcut, hlt⟩ | ⟨he, hcut, hlt⟩
    · exact Or.inl ⟨he, hcut, by omega⟩
    · exact Or.inr ⟨he, hcut, by omega⟩

/-- The second run is cut short at a point that the first run leaves behind. -/
theorem Agree.of_cut {d : Nat} {m : Eval (List Event) α} {s : State (List Event)}
    {trace : List Event} (hm : Extends m s trace) {e : ParseError} {t : State σ}
    {cut : List Event} (hcut : ∀ u : State _, trace <:+ u.trace → p.CutAt u.history e t.trace cut) :
    p.Agree d (m s) (.error e t) := by
  cases hms : m s with
  | ok a u => exact cutResult ⟨cut, hcut u (Leads.of_ok hm hms)⟩
  | error e' u => exact cutError ⟨cut, hcut u (Leads.of_error hm hms)⟩

namespace Lockstep

variable {d d' d'' : Nat}

theorem bind {m : Eval (List Event) β} {m' : Eval σ β} {k : β → Eval (List Event) α}
    {k' : β → Eval σ α} (hm : p.Lockstep d d' m m') (hk : ∀ b, p.Lockstep d' d'' (k b) (k' b)) :
    p.Lockstep d d'' (m >>= k) (m' >>= k') := by
  constructor
  · intro s
    unfold Extends
    rw [leads_bind]
    refine (hm.grows s).imp ?_
    intro b t hst
    exact ((hk b).grows t).mono (fun _ _ htu => hst.trans htu) fun _ _ htu => hst.trans htu
  · intro s t hst hfair
    have hfirst := hm.agree s t hst
    cases hms : m s with
    | error e u =>
      rw [bind_of_error hms] at hfair ⊢
      rw [hms] at hfirst
      have hagree := hfirst hfair.of_error
      generalize hmt : m' t = r at hagree
      cases hagree with
      | error level =>
        rw [bind_of_error hmt]
        exact Agree.error level
      | cutError cut =>
        rw [bind_of_error hmt]
        exact Agree.cutError cut
    | ok b u =>
      rw [bind_of_ok hms] at hfair ⊢
      rw [hms] at hfirst
      have hagree := hfirst (Fair.of_ok b u)
      generalize hmt : m' t = r at hagree
      cases hagree with
      | ok abreast =>
        rw [bind_of_ok hmt]
        exact (hk b).agree u _ abreast hfair
      | cutResult cut =>
        -- The first run goes on, and with its history the reason of the cut stays.
        obtain ⟨es, hcut⟩ := cut
        rw [bind_of_error hmt]
        exact Agree.of_cut ((hk b).grows u) fun w hw => hcut.mono (history_mono hw)

theorem pure (a : α) : p.Lockstep d d (Pure.pure a) (Pure.pure a) where
  grows _ := List.suffix_rfl
  agree _ _ hst _ := Agree.ok hst

theorem throw (e : ParseError) :
    p.Lockstep d d' (MonadExcept.throw e : Eval _ α) (MonadExcept.throw e) where
  grows _ := List.suffix_rfl
  agree _ _ hst _ := Agree.error hst.level

/-- A step that looks at what the two runs have in common. -/
theorem read {f : State (List Event) → α} {f' : State σ → α}
    (h : ∀ s t, p.Abreast d s t → f s = f' t) :
    p.Lockstep d d (do return f (← get)) (do return f' (← get)) where
  grows _ := List.suffix_rfl
  agree s t hst _ := by
    change p.Agree d (.ok (f s) s) (.ok (f' t) t)
    rw [h s t hst]
    exact Agree.ok hst

/-- A step that goes on with what it sees. Both runs see the same scanner. -/
theorem look {k : State (List Event) → Eval (List Event) α} {k' : State σ → Eval σ α}
    (hk : ∀ s t, t.scanner = s.scanner → p.Lockstep d d' (k s) (k' t)) :
    p.Lockstep d d' (get >>= k) (get >>= k') where
  grows s := (hk s ⟨s.scanner, s.fuel, s.depth, s.quiet, s.furthest, p.init⟩ rfl).grows s
  agree s t hst hfair := (hk s t hst.scanner).agree s t hst hfair

theorem update {f : State (List Event) → State (List Event)} {f' : State σ → State σ}
    (hgrows : ∀ s, s.trace <:+ (f s).trace)
    (h : ∀ s t, p.Abreast d s t → p.Abreast d' (f s) (f' t)) :
    p.Lockstep d d' (modify f : Eval _ Unit) (modify f') where
  grows s := hgrows s
  agree s t hst _ := Agree.ok (h s t hst)

theorem cursor : p.Lockstep d d Eval.cursor Eval.cursor :=
  read fun s t hst => by rw [hst.scanner]

theorem skippedCursor : p.Lockstep d d Eval.skippedCursor Eval.skippedCursor :=
  read fun s t hst => by rw [hst.scanner]

theorem setScanner (scanner : Scanner) :
    p.Lockstep d d (Eval.setScanner scanner) (Eval.setScanner scanner) :=
  update (fun _ => List.suffix_rfl) fun _ _ hst => { hst with scanner := rfl }

theorem reset (mark : Cursor) : p.Lockstep d d (Eval.reset mark) (Eval.reset mark) :=
  update (fun _ => List.suffix_rfl) fun _ _ hst => { hst with scanner := by rw [hst.scanner] }

theorem ofMarks (result : Except ScanError Scanner) :
    p.Lockstep d d (Eval.ofMarks result) (Eval.ofMarks result) := by
  cases result with
  | ok scanner => exact setScanner scanner
  | error e => exact throw _

theorem record (c : Cursor) (label : Unit → String) :
    p.Lockstep d d (Eval.record c label) (Eval.record c label) := by
  refine update (fun s => ?_) fun s t hst => ?_
  · split <;> exact List.suffix_rfl
  · by_cases hquiet : 0 < s.quiet
    · rw [if_pos hquiet, if_pos (hst.quiet ▸ hquiet)]
      exact hst
    · rw [if_neg hquiet, if_neg (hst.quiet ▸ hquiet)]
      exact { hst with furthest := by rw [hst.furthest] }

theorem backtracked (start : Cursor) :
    p.Lockstep d d (Eval.backtracked p.first.tracer start)
      (Eval.backtracked p.second.tracer start) := by
  refine update (fun s => ?_) fun s t hst => ?_
  · dsimp only
    split
    · exact List.suffix_rfl
    · exact List.suffix_cons _ _
  · have hposition : t.scanner.position = s.scanner.position := by rw [hst.scanner]
    dsimp only
    rw [hposition]
    split
    · exact hst
    · exact hst.add (.backtrack start.offset s.scanner.position) rfl

theorem rewind (mark : Cursor) :
    p.Lockstep d d (Eval.rewind p.first.tracer mark) (Eval.rewind p.second.tracer mark) :=
  cursor.bind fun start => (reset mark).bind fun _ => backtracked start

theorem fail (e : Element) :
    p.Lockstep (d + 1) d (Eval.fail p.first.tracer e) (Eval.fail p.second.tracer e) := by
  refine update (fun s => List.suffix_cons _ _) fun s t hst => ?_
  have hposition : t.scanner.position = s.scanner.position := by rw [hst.scanner]
  rw [hposition]
  exact hst.add (.failure e s.scanner.position) rfl

theorem succeed (e : Element) (entry : Cursor) :
    p.Lockstep (d + 1) d (Eval.succeed p.first.tracer e entry)
      (Eval.succeed p.second.tracer e entry) := by
  refine update (fun s => List.suffix_cons _ _) fun s t hst => ?_
  have hposition : t.scanner.position = s.scanner.position := by rw [hst.scanner]
  have htoken : (t.scanner.reset entry).skippedPosition =
      (s.scanner.reset entry).skippedPosition := by rw [hst.scanner]
  dsimp only
  rw [hposition, htoken]
  exact hst.add (.success e _ s.scanner.position) rfl

theorem quieten (f : Nat → Nat) :
    p.Lockstep d d (modify fun s => { s with quiet := f s.quiet } : Eval _ Unit)
      (modify fun s => { s with quiet := f s.quiet }) :=
  update (fun _ => List.suffix_rfl) fun _ _ hst => { hst with quiet := by rw [hst.quiet] }

/-- Steps that are bounded by the fuel they find agree if they do under every
common bound. -/
theorem of_bound {m : Eval (List Event) α} {m' : Eval σ α} {n : Nat → Eval (List Event) α}
    {n' : Nat → Eval σ α} (hm : ∀ bound s, s.fuel < bound → m s = n bound s)
    (hm' : ∀ bound s, s.fuel < bound → m' s = n' bound s)
    (h : ∀ bound, p.Lockstep d d' (n bound) (n' bound)) : p.Lockstep d d' m m' := by
  constructor
  · intro s
    unfold Extends Leads
    rw [hm (s.fuel + 1) s (by omega)]
    exact (h (s.fuel + 1)).grows s
  · intro s t hst hfair
    have hs : m s = n (s.fuel + t.fuel + 1) s := hm _ s (by omega)
    have ht : m' t = n' (s.fuel + t.fuel + 1) t := hm' _ t (by omega)
    rw [hs] at hfair ⊢
    rw [ht]
    exact (h _).agree s t hst hfair

end Lockstep

end Pair

end Peg
