import Peg.Parse.Run

/-!
Outcomes of evaluation steps.

`Leads m s post fault` says what holds after the step `m` from the state `s`:
`post` of its result and the state it leaves, or `fault` of its error. The
lemmas below follow a step from its first action to its last one.
-/
namespace Peg.Eval

variable {σ α β : Type}

/-- The step ends in a result with `post` or in an error with `fault`. -/
def Leads (m : Eval σ α) (s : State σ) (post : α → State σ → Prop)
    (fault : ParseError → State σ → Prop) : Prop :=
  match m s with
  | .ok a t => post a t
  | .error e t => fault e t

/-- Takes the step and tests what it leads to. -/
def passes (m : Eval σ α) (s : State σ) (test : α → State σ → Bool) : Bool :=
  match m s with
  | .ok a t => test a t
  | .error _ _ => false

section

variable {s : State σ} {post : α → State σ → Prop} {fault : ParseError → State σ → Prop}

theorem Leads.mono {m : Eval σ α} {post' : α → State σ → Prop}
    {fault' : ParseError → State σ → Prop} (h : Leads m s post fault)
    (hpost : ∀ a t, post a t → post' a t) (hfault : ∀ e t, fault e t → fault' e t) :
    Leads m s post' fault' := by
  unfold Leads at h ⊢
  split at h
  · exact hpost _ _ h
  · exact hfault _ _ h

theorem Leads.imp {m : Eval σ α} {post' : α → State σ → Prop} (h : Leads m s post fault)
    (hpost : ∀ a t, post a t → post' a t) : Leads m s post' fault :=
  h.mono hpost fun _ _ hfault => hfault

theorem Leads.and {m : Eval σ α} {post' : α → State σ → Prop}
    {fault' : ParseError → State σ → Prop} (h : Leads m s post fault)
    (h' : Leads m s post' fault') :
    Leads m s (fun a t => post a t ∧ post' a t) fun e t => fault e t ∧ fault' e t := by
  unfold Leads at h h' ⊢
  cases hm : m s with
  | ok a t =>
    rw [hm] at h h'
    exact ⟨h, h'⟩
  | error e t =>
    rw [hm] at h h'
    exact ⟨h, h'⟩

theorem Leads.of_ok {m : Eval σ α} {a : α} {t : State σ} (h : Leads m s post fault)
    (hm : m s = .ok a t) : post a t := by
  simpa only [Leads, hm] using h

theorem Leads.of_error {m : Eval σ α} {e : ParseError} {t : State σ} (h : Leads m s post fault)
    (hm : m s = .error e t) : fault e t := by
  simpa only [Leads, hm] using h

/-- A step that leads to no error has a result. -/
theorem Leads.exists_ok {m : Eval σ α} (h : Leads m s post fun _ _ => False) :
    ∃ a t, m s = .ok a t ∧ post a t := by
  cases hm : m s with
  | ok a t => exact ⟨a, t, rfl, h.of_ok hm⟩
  | error e t => exact (h.of_error hm).elim

theorem exists_ok_of_passes {m : Eval σ α} {test : α → State σ → Bool}
    (h : passes m s test = true) : ∃ a t, m s = .ok a t ∧ test a t = true := by
  unfold passes at h
  split at h
  · exact ⟨_, _, ‹_›, h⟩
  · cases h

theorem leads_error {m : Eval σ α} {e : ParseError} {t : State σ} (hm : m s = .error e t)
    (h : fault e t) : Leads m s post fault := by
  simpa only [Leads, hm] using h

theorem leads_bind {m : Eval σ β} {k : β → Eval σ α} :
    Leads (m >>= k) s post fault ↔ Leads m s (fun b t => Leads (k b) t post fault) fault := by
  change (match EStateM.bind m k s with
    | .ok a t => post a t
    | .error e t => fault e t) ↔ _
  unfold Leads EStateM.bind
  cases m s <;> rfl

theorem bind_of_ok {m : Eval σ β} {k : β → Eval σ α} {b : β} {t : State σ}
    (h : m s = .ok b t) : (m >>= k) s = k b t := by
  change EStateM.bind m k s = k b t
  simp only [EStateM.bind, h]

theorem bind_of_error {m : Eval σ β} {k : β → Eval σ α} {e : ParseError} {t : State σ}
    (h : m s = .error e t) : (m >>= k) s = .error e t := by
  change EStateM.bind m k s = .error e t
  simp only [EStateM.bind, h]

/-- What follows a step matters only where the step leads. -/
theorem bind_congr {m m' : Eval σ β} {k k' : β → Eval σ α} (hm : m s = m' s)
    (hk : ∀ b t, m s = .ok b t → k b t = k' b t) : (m >>= k) s = (m' >>= k') s := by
  cases h : m s with
  | ok b t => rw [bind_of_ok h, bind_of_ok (hm ▸ h), hk b t h]
  | error e t => rw [bind_of_error h, bind_of_error (hm ▸ h)]

theorem leads_pure {a : α} : Leads (pure a) s post fault ↔ post a s := Iff.rfl

theorem leads_throw {e : ParseError} : Leads (throw e) s post fault ↔ fault e s := Iff.rfl

end

section

variable {s : State σ} {fault : ParseError → State σ → Prop}

theorem leads_get {post : State σ → State σ → Prop} :
    Leads get s post fault ↔ post s s := Iff.rfl

theorem leads_cursor {post : Cursor → State σ → Prop} :
    Leads cursor s post fault ↔ post s.scanner.cursor s := Iff.rfl

theorem leads_skippedCursor {post : Cursor → State σ → Prop} :
    Leads skippedCursor s post fault ↔ post s.scanner.skippedCursor s := Iff.rfl

variable {post : Unit → State σ → Prop}

theorem leads_modify {f : State σ → State σ} :
    Leads (modify f) s post fault ↔ post () (f s) := Iff.rfl

theorem leads_setScanner {scanner : Scanner} :
    Leads (setScanner scanner) s post fault ↔ post () { s with scanner := scanner } := Iff.rfl

theorem leads_reset {mark : Cursor} :
    Leads (reset mark) s post fault ↔
      post () { s with scanner := s.scanner.reset mark } := Iff.rfl

theorem leads_ofMarks {scanner : Scanner} :
    Leads (ofMarks (.ok scanner)) s post fault ↔ post () { s with scanner := scanner } := Iff.rfl

/-- A note changes nothing but the notes. -/
theorem leads_record {c : Cursor} {label : Unit → String}
    (h : ∀ f, post () { s with furthest := f }) : Leads (record c label) s post fault := by
  change post () (if 0 < s.quiet then s else { s with furthest := s.furthest.record c label })
  split
  · exact h s.furthest
  · exact h _

/-- Inside typed leaves nothing is noted. -/
theorem record_eq {s : State σ} {c : Cursor} {label : Unit → String} :
    record c label s = .ok () { s with
      furthest := if 0 < s.quiet then s.furthest else s.furthest.record c label } := by
  have hstep : record c label s = .ok () (if 0 < s.quiet then s
    else { s with furthest := s.furthest.record c label }) := rfl
  rw [hstep]
  split
  · rfl
  · rfl

/-- An observation changes nothing but the state of the observer. -/
theorem leads_backtracked {tracer : Tracer σ} {start : Cursor}
    (h : ∀ trace, post () { s with trace := trace }) :
    Leads (backtracked tracer start) s post fault := by
  change post () (if start.offset = s.scanner.position then s else _)
  split
  · exact h s.trace
  · exact h _

theorem leads_rewind {tracer : Tracer σ} {mark : Cursor}
    (h : ∀ trace, post () { s with scanner := s.scanner.reset mark, trace := trace }) :
    Leads (rewind tracer mark) s post fault := by
  unfold rewind
  simp only [leads_bind, leads_cursor, leads_reset]
  exact leads_backtracked h

theorem leads_enter {tracer : Tracer σ} {e : Element}
    (h : ∀ trace, post () { s with depth := s.depth + 1, trace := trace }) :
    Leads (enter tracer e) s post fault :=
  h _

theorem leads_fail {tracer : Tracer σ} {e : Element}
    (h : ∀ trace, post () { s with depth := s.depth - 1, trace := trace }) :
    Leads (fail tracer e) s post fault :=
  h _

theorem leads_succeed {tracer : Tracer σ} {e : Element} {entry : Cursor}
    (h : ∀ trace, post () { s with depth := s.depth - 1, trace := trace }) :
    Leads (succeed tracer e entry) s post fault :=
  h _

/-- Paying takes one unit of fuel, if there is any. -/
theorem leads_spend {limits : Limits} :
    Leads (spend limits) s post fault ↔
      if s.fuel = 0 then fault (.fuelExhausted limits.fuel) s
      else post () { s with fuel := s.fuel - 1 } := by
  unfold spend
  simp only [leads_bind, leads_get]
  split
  · exact leads_throw
  · exact Iff.rfl

end

end Peg.Eval

namespace Peg

open Eval

/-- With only skipped characters ahead, the demand for the end is met. -/
theorem Engine.demandEnd_of_atEnd {σ : Type} {s : State σ}
    (h : s.scanner.skipNow.atEnd = true) :
    Engine.demandEnd s = .ok () { s with scanner := s.scanner.skipNow } := by
  have hgo : setScanner s.scanner.skipNow s =
      .ok () { s with scanner := s.scanner.skipNow } := rfl
  have hget : (get : Eval σ _) s = .ok s s := rfl
  unfold Engine.demandEnd
  rw [bind_of_ok hget, bind_of_ok hgo, h]
  rfl

/-- Where more follows, the end is noted as expected behind the skipped characters. -/
theorem Engine.demandEnd_of_more {σ : Type} {s : State σ}
    (h : s.scanner.skipNow.atEnd ≠ true) :
    let furthest := if 0 < s.quiet then s.furthest
      else s.furthest.record s.scanner.skippedCursor fun _ => "end of input"
    Engine.demandEnd s =
      .error furthest.error { s with scanner := s.scanner.skipNow, furthest := furthest } := by
  have hgo : setScanner s.scanner.skipNow s =
      .ok () { s with scanner := s.scanner.skipNow } := rfl
  have hget : (get : Eval σ _) s = .ok s s := rfl
  have hmore : s.scanner.skipNow.atEnd = false := eq_false_of_ne_true h
  unfold Engine.demandEnd
  rw [bind_of_ok hget, bind_of_ok hgo, hmore]
  exact bind_of_ok record_eq

/-- From `s` to `t` the cursor may have moved, places may have been noted and
events observed, and `n` units of fuel were spent; all else is as before. -/
structure Kept {σ : Type} (n : Nat) (s t : State σ) : Prop where
  marks : t.scanner.marks = s.scanner.marks
  skip : t.scanner.skip = s.scanner.skip
  suppressed : t.scanner.suppressed = s.scanner.suppressed
  depth : t.depth = s.depth
  quiet : t.quiet = s.quiet
  fuel : t.fuel + n = s.fuel

namespace Kept

variable {σ : Type} {n n' : Nat} {s t u : State σ}

theorem refl (s : State σ) : Kept 0 s s :=
  ⟨rfl, rfl, rfl, rfl, rfl, rfl⟩

theorem trans (hst : Kept n s t) (htu : Kept n' t u) : Kept (n + n') s u where
  marks := htu.marks.trans hst.marks
  skip := htu.skip.trans hst.skip
  suppressed := htu.suppressed.trans hst.suppressed
  depth := htu.depth.trans hst.depth
  quiet := htu.quiet.trans hst.quiet
  fuel := by
    have := hst.fuel
    have := htu.fuel
    omega

/-- The cursor, the notes and the observations do not count. -/
theorem moved (h : Kept n s t) (c : Cursor) (f : Furthest) (trace : σ) :
    Kept n s { t with scanner := t.scanner.reset c, furthest := f, trace := trace } :=
  ⟨h.marks, h.skip, h.suppressed, h.depth, h.quiet, h.fuel⟩

end Kept

end Peg
