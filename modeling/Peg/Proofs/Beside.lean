import Peg.Proofs.Lockstep

/-!
Two runs beside each other, whatever effort they take.

The runs may have different fuel and may be nested to different depths, so one
of them can be ended by a limit where the other one goes on; then nothing is
said about them. As long as no limit gets in the way they are to stay at the
same place of the text, with the same failures noted.
-/
namespace Peg

open Eval

variable {σ α β γ δ : Type}

/-- Two states with the same failures noted that skip the same. How much fuel they
have left, how many evaluations and marks are open, and what has been observed
does not count. -/
structure Apart (s t : State σ) : Prop where
  skip : t.scanner.skip = s.scanner.skip
  suppressed : t.scanner.suppressed = s.scanner.suppressed
  quiet : t.quiet = s.quiet
  furthest : t.furthest = s.furthest

/-- Two such states at the same place. -/
structure Peer (s t : State σ) : Prop extends Apart s t where
  cursor : t.scanner.cursor = s.scanner.cursor

/-- The outcomes of two steps: results that `Q` relates, or the same error with
the same failures noted, unless one of the steps was ended by a limit. -/
inductive Consistent (Q : α → β → Prop) :
    EStateM.Result ParseError (State σ) α → EStateM.Result ParseError (State σ) β → Prop
  | ok {a : α} {b : β} {s t : State σ} (related : Q a b) (peer : Peer s t) :
      Consistent Q (.ok a s) (.ok b t)
  | error {e : ParseError} {s t : State σ} (furthest : t.furthest = s.furthest) :
      Consistent Q (.error e s) (.error e t)
  | limited {e : ParseError} {s : State σ} {r : EStateM.Result ParseError (State σ) β}
      (limit : e.IsLimit) : Consistent Q (.error e s) r
  | limited' {e : ParseError} {r : EStateM.Result ParseError (State σ) α} {t : State σ}
      (limit : e.IsLimit) : Consistent Q r (.error e t)

/-- The step `m` from `s` and the step `m'` from `t` have consistent outcomes. -/
def Beside (Q : α → β → Prop) (m : Eval σ α) (s : State σ) (m' : Eval σ β) (t : State σ) :
    Prop :=
  Consistent Q (m s) (m' t)

/-- The error of a limit, in whatever state. -/
def Limited (e : ParseError) (_ : State σ) : Prop :=
  e.IsLimit

section

variable {s t u : State σ}

theorem Apart.symm (hst : Apart s t) : Apart t s :=
  ⟨hst.skip.symm, hst.suppressed.symm, hst.quiet.symm, hst.furthest.symm⟩

theorem Apart.trans (hst : Apart s t) (htu : Apart t u) : Apart s u :=
  ⟨htu.skip.trans hst.skip, htu.suppressed.trans hst.suppressed, htu.quiet.trans hst.quiet,
    htu.furthest.trans hst.furthest⟩

/-- The state in which it is noted what was expected at a place. -/
def State.recorded (s : State σ) (c : Cursor) (label : Unit → String) : State σ :=
  if 0 < s.quiet then s else { s with furthest := s.furthest.record c label }

/-- The same note leaves them with the same failures. -/
theorem Apart.recorded (hst : Apart s t) (c : Cursor) (label : Unit → String) :
    Apart (s.recorded c label) (t.recorded c label) := by
  unfold State.recorded
  by_cases hquiet : 0 < s.quiet
  · rw [if_pos hquiet, if_pos (hst.quiet ▸ hquiet)]
    exact hst
  · rw [if_neg hquiet, if_neg (hst.quiet ▸ hquiet)]
    exact { hst with furthest := congrArg (·.record c label) hst.furthest }

theorem State.recorded_eq (s : State σ) (c : Cursor) (label : Unit → String) :
    s.recorded c label = { s with
      furthest := if 0 < s.quiet then s.furthest else s.furthest.record c label } := by
  unfold recorded
  split
  · rfl
  · rfl

/-- A note moves nothing. -/
theorem State.recorded_scanner (s : State σ) (c : Cursor) (label : Unit → String) :
    (s.recorded c label).scanner = s.scanner := by
  rw [recorded_eq]

/-- They get together at any place, whatever marks and traces they are left with. -/
theorem Apart.moved (hst : Apart s t) (c : Cursor) (marks marks' : List Cursor)
    (trace trace' : σ) :
    Peer { s with scanner := { s.scanner with cursor := c, marks := marks }, trace := trace }
      { t with scanner := { t.scanner with cursor := c, marks := marks' }, trace := trace' } :=
  ⟨{ hst with }, rfl⟩

namespace Peer

theorem refl (s : State σ) : Peer s s :=
  ⟨⟨rfl, rfl, rfl, rfl⟩, rfl⟩

theorem symm (hst : Peer s t) : Peer t s :=
  ⟨hst.toApart.symm, hst.cursor.symm⟩

theorem trans (hst : Peer s t) (htu : Peer t u) : Peer s u :=
  ⟨hst.toApart.trans htu.toApart, htu.cursor.trans hst.cursor⟩

theorem recorded (hst : Peer s t) (c : Cursor) (label : Unit → String) :
    Peer (s.recorded c label) (t.recorded c label) := by
  refine ⟨hst.toApart.recorded c label, ?_⟩
  rw [State.recorded_scanner, State.recorded_scanner]
  exact hst.cursor

/-- Peers look for the next literal or pattern at the same place. -/
theorem skippedCursor (hst : Peer s t) : t.scanner.skippedCursor = s.scanner.skippedCursor := by
  unfold Scanner.skippedCursor
  rw [hst.cursor, hst.skip, hst.suppressed]

/-- So they find the same when they jump there. -/
theorem skipNow (hst : Peer s t) :
    Peer { s with scanner := s.scanner.skipNow } { t with scanner := t.scanner.skipNow } :=
  { hst with cursor := hst.skippedCursor }

theorem atEnd_skipNow (hst : Peer s t) : t.scanner.skipNow.atEnd = s.scanner.skipNow.atEnd :=
  congrArg Cursor.atEnd hst.skippedCursor

end Peer

end

namespace Consistent

variable {Q Q' : α → β → Prop} {r : EStateM.Result ParseError (State σ) α}
  {r' : EStateM.Result ParseError (State σ) β}

theorem swap (h : Consistent Q r r') : Consistent (fun b a => Q a b) r' r := by
  cases h with
  | ok related peer => exact ok related peer.symm
  | error furthest => exact error furthest.symm
  | limited limit => exact limited' limit
  | limited' limit => exact limited limit

theorem imp (h : Consistent Q r r') (hQ : ∀ a b, Q a b → Q' a b) : Consistent Q' r r' := by
  cases h with
  | ok related peer => exact ok (hQ _ _ related) peer
  | error furthest => exact error furthest
  | limited limit => exact limited limit
  | limited' limit => exact limited' limit

end Consistent

namespace Beside

variable {s t u v : State σ} {Q : α → β → Prop} {R : γ → δ → Prop}

theorem pure {a : α} {b : β} (h : Q a b) (hst : Peer s t) :
    Beside Q (Pure.pure a) s (Pure.pure b) t :=
  Consistent.ok h hst

theorem throw (e : ParseError) (hst : Peer s t) :
    Beside Q (MonadExcept.throw e) s (MonadExcept.throw e) t :=
  Consistent.error hst.furthest

theorem swap {m : Eval σ α} {m' : Eval σ β} (h : Beside Q m s m' t) :
    Beside (fun b a => Q a b) m' t m s :=
  Consistent.swap h

theorem imp {Q' : α → β → Prop} {m : Eval σ α} {m' : Eval σ β} (h : Beside Q m s m' t)
    (hQ : ∀ a b, Q a b → Q' a b) : Beside Q' m s m' t :=
  Consistent.imp h hQ

/-- The runs go on from where the first steps led them. -/
theorem bind_of_ok {m : Eval σ α} {m' : Eval σ β} {k : α → Eval σ γ} {k' : β → Eval σ δ}
    (h : Beside Q m s m' t)
    (hk : ∀ a b u v, m s = .ok a u → m' t = .ok b v → Q a b → Peer u v →
      Beside R (k a) u (k' b) v) :
    Beside R (m >>= k) s (m' >>= k') t := by
  unfold Beside at h ⊢
  generalize hms : m s = r at h
  generalize hmt : m' t = r' at h
  cases h with
  | ok related peer =>
    rw [Eval.bind_of_ok hms, Eval.bind_of_ok hmt]
    exact hk _ _ _ _ hms hmt related peer
  | error furthest =>
    rw [bind_of_error hms, bind_of_error hmt]
    exact Consistent.error furthest
  | limited limit =>
    rw [bind_of_error hms]
    exact Consistent.limited limit
  | limited' limit =>
    rw [bind_of_error hmt]
    exact Consistent.limited' limit

theorem bind {m : Eval σ α} {m' : Eval σ β} {k : α → Eval σ γ} {k' : β → Eval σ δ}
    (h : Beside Q m s m' t)
    (hk : ∀ a b u v, Q a b → Peer u v → Beside R (k a) u (k' b) v) :
    Beside R (m >>= k) s (m' >>= k') t :=
  h.bind_of_ok fun a b u v _ _ hQ huv => hk a b u v hQ huv

/-- The first run takes a step on its own. -/
theorem left {m : Eval σ γ} {k : γ → Eval σ α} {m' : Eval σ β}
    (h : Leads m s (fun c u => Beside Q (k c) u m' t) Limited) :
    Beside Q (m >>= k) s m' t := by
  unfold Beside
  cases hm : m s with
  | ok c u =>
    rw [Eval.bind_of_ok hm]
    exact h.of_ok hm
  | error e u =>
    rw [bind_of_error hm]
    exact Consistent.limited (h.of_error hm)

/-- The second run takes a step on its own. -/
theorem right {m : Eval σ α} {m' : Eval σ δ} {k' : δ → Eval σ β}
    (h : Leads m' t (fun c v => Beside Q m s (k' c) v) Limited) :
    Beside Q m s (m' >>= k') t := by
  unfold Beside
  cases hm : m' t with
  | ok c v =>
    rw [Eval.bind_of_ok hm]
    exact h.of_ok hm
  | error e v =>
    rw [bind_of_error hm]
    exact Consistent.limited' (h.of_error hm)

/-- Both runs go on with what they see. -/
theorem look {k : State σ → Eval σ α} {k' : State σ → Eval σ β} (h : Beside Q (k s) s (k' t) t) :
    Beside Q (get >>= k) s (get >>= k') t :=
  h

/-- Both runs change their states. -/
theorem update {f f' : State σ → State σ} (h : Peer (f s) (f' t)) :
    Beside Eq (modify f : Eval σ Unit) s (modify f') t :=
  Consistent.ok rfl h

section Steps

variable (hst : Peer s t)

include hst

theorem cursor : Beside Eq Eval.cursor s Eval.cursor t :=
  Consistent.ok hst.cursor.symm hst

theorem skippedCursor : Beside Eq Eval.skippedCursor s Eval.skippedCursor t :=
  Consistent.ok hst.skippedCursor.symm hst

theorem reset (mark : Cursor) : Beside Eq (Eval.reset mark) s (Eval.reset mark) t :=
  update (hst.moved mark _ _ _ _)

theorem quieten (f : Nat → Nat) :
    Beside Eq (modify fun s => { s with quiet := f s.quiet } : Eval σ Unit) s
      (modify fun s => { s with quiet := f s.quiet }) t :=
  update { hst with quiet := congrArg f hst.quiet }

theorem record (c : Cursor) (label : Unit → String) :
    Beside Eq (Eval.record c label) s (Eval.record c label) t :=
  update (hst.recorded c label)

end Steps

/-- Wherever the two runs are, they go back to the same place. -/
theorem rewind (hst : Apart s t) (tracer : Tracer σ) (mark : Cursor) :
    Beside Eq (Eval.rewind tracer mark) s (Eval.rewind tracer mark) t := by
  have hback : ∀ u : State σ, ∃ trace, Eval.rewind tracer mark u =
      .ok () { u with scanner := u.scanner.reset mark, trace := trace } := by
    intro u
    have hleads : Leads (Eval.rewind tracer mark) u (fun _ v => ∃ trace,
        v = { u with scanner := u.scanner.reset mark, trace := trace }) fun _ _ => False :=
      leads_rewind fun trace => ⟨trace, rfl⟩
    obtain ⟨_, v, hrun, trace, rfl⟩ := hleads.exists_ok
    exact ⟨trace, hrun⟩
  obtain ⟨trace, hs⟩ := hback s
  obtain ⟨trace', ht⟩ := hback t
  unfold Beside
  rw [hs, ht]
  exact Consistent.ok rfl (hst.moved mark _ _ trace trace')

end Beside

end Peg
