import Peg.Trace.Event

/-!
Histories: what was observed of a run so far.

A history tells how many evaluations were opened, how many are open at its end
and how many were open at once. Any observer can be shown a history later.
-/
namespace Peg

namespace Event

/-- Whether an evaluation is opened. -/
def isEnter : Event → Bool
  | enter _ _ => true
  | _ => false

/-- How many evaluations are open after the event, if `n` were open before. -/
def level (n : Nat) : Event → Nat
  | enter _ _ => n + 1
  | success _ _ _ | failure _ _ => n - 1
  | backtrack _ _ => n

/-- The number of evaluations in a history. -/
def enters (es : List Event) : Nat :=
  es.countP isEnter

/-- The number of evaluations that are open at the end of a history. -/
def openAfter (es : List Event) : Nat :=
  es.foldl level 0

/-- The largest number of evaluations that are open at once, from `n` open
evaluations on. -/
def peakFrom (n : Nat) : List Event → Nat
  | [] => n
  | ev :: es => max n (peakFrom (ev.level n) es)

/-- The largest number of evaluations that are open at once. -/
def peak (es : List Event) : Nat :=
  peakFrom 0 es

theorem enters_concat (es : List Event) (ev : Event) :
    enters (es ++ [ev]) = enters es + if ev.isEnter then 1 else 0 := by
  simp [enters, List.countP_append, List.countP_singleton]

theorem level_le {ev : Event} (h : ev.isEnter = false) (n : Nat) : ev.level n ≤ n := by
  cases ev with
  | enter _ _ => cases h
  | success _ _ _ | failure _ _ => exact Nat.sub_le n 1
  | backtrack _ _ => exact Nat.le_refl n

theorem openAfter_concat (es : List Event) (ev : Event) :
    openAfter (es ++ [ev]) = ev.level (openAfter es) := by
  simp [openAfter]

theorem le_peakFrom (n : Nat) (es : List Event) : n ≤ peakFrom n es := by
  cases es with
  | nil => exact Nat.le_refl n
  | cons ev es => exact Nat.le_max_left _ _

theorem peakFrom_append (n : Nat) (es es' : List Event) :
    peakFrom n (es ++ es') = max (peakFrom n es) (peakFrom (es.foldl level n) es') := by
  induction es generalizing n with
  | nil =>
    have := le_peakFrom n es'
    simp only [List.nil_append, peakFrom, List.foldl_nil]
    omega
  | cons ev es ih =>
    simp only [List.cons_append, peakFrom, List.foldl_cons, ih]
    omega

/-- At no point of a history are more evaluations open than at its peak. -/
theorem openAfter_le_peak {p es : List Event} (h : p <+: es) : openAfter p ≤ peak es := by
  obtain ⟨rest, rfl⟩ := h
  have happ := peakFrom_append 0 p rest
  have := le_peakFrom (p.foldl level 0) rest
  unfold openAfter peak
  omega

theorem peak_concat (es : List Event) (ev : Event) :
    peak (es ++ [ev]) = max (peak es) (openAfter (es ++ [ev])) := by
  have happ : peak (es ++ [ev]) = max (peak es) (peakFrom (openAfter es) [ev]) :=
    peakFrom_append 0 es [ev]
  have hlast : peakFrom (openAfter es) [ev] = max (openAfter es) (ev.level (openAfter es)) := rfl
  have hopen : openAfter es ≤ peak es := openAfter_le_peak List.prefix_rfl
  rw [happ, hlast, openAfter_concat]
  omega

theorem peak_mono {p es : List Event} (h : p <+: es) : peak p ≤ peak es := by
  obtain ⟨rest, rfl⟩ := h
  have happ := peakFrom_append 0 p rest
  unfold peak
  omega

theorem enters_mono {p es : List Event} (h : p <+: es) : enters p ≤ enters es :=
  h.sublist.countP_le

end Event

/-- The state of an observer after a history. -/
def Tracer.replay {σ : Type} (tracer : Tracer σ) (init : σ) (es : List Event) : σ :=
  es.foldl tracer.observe init

theorem Tracer.replay_concat {σ : Type} (tracer : Tracer σ) (init : σ) (es : List Event)
    (ev : Event) : tracer.replay init (es ++ [ev]) = tracer.observe (tracer.replay init es) ev := by
  simp [replay]

theorem Tracer.replay_recorder (es : List Event) : Tracer.recorder.replay [] es = es.reverse := by
  have hgen : ∀ init, Tracer.recorder.replay init es = es.reverse ++ init := by
    induction es with
    | nil => exact fun _ => rfl
    | cons ev es ih =>
      intro init
      have hstep : Tracer.recorder.replay init (ev :: es) =
          Tracer.recorder.replay (ev :: init) es := by
        cases ev <;> rfl
      rw [hstep, ih]
      simp
  simpa using hgen []

end Peg
