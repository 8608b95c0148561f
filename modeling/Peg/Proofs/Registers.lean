import Peg.Proofs.Limits
import Peg.Proofs.Machine

/-!
A machine beside an engine.

Registers hold a state of an engine, and an action of the machine mirrors a step
of the engine if it takes registers that hold a state to registers that hold the
next one, without a panic. Counters do not wrap around, as the depth stays within
its limit, and the number of open typed leaves within the depth.
-/
namespace Peg

namespace Act

variable {σ α β : Type} {r r' : Registers σ}

theorem bind_of_ok {act : Act σ α} {k : α → Act σ β} {a : α} (h : act r = .ok a r') :
    (act >>= k) r = k a r' := by
  change EStateM.bind act k r = k a r'
  simp only [EStateM.bind, h]

theorem bind_of_error {act : Act σ α} {k : α → Act σ β} {stop : Stop}
    (h : act r = .error stop r') : (act >>= k) r = .error stop r' := by
  change EStateM.bind act k r = .error stop r'
  simp only [EStateM.bind, h]

theorem bind_get {k : Registers σ → Act σ β} : (get >>= k) r = k r r := rfl

theorem attempt_of_ok {act : Act σ α} {a : α} (h : act r = .ok a r') :
    attempt act r = .ok (.ok a) r' := by
  simp only [attempt, h]

theorem attempt_of_error {act : Act σ α} {e : ParseError} (h : act r = .error (.error e) r') :
    attempt act r = .ok (.error e) r' := by
  simp only [attempt, h]

theorem toNat_add_one {w bound : UInt32} (h : w < bound) : (w + 1).toNat = w.toNat + 1 := by
  have hw : w.toNat < bound.toNat := UInt32.lt_iff_toNat_lt.mp h
  have hbound := bound.toNat_lt
  rw [UInt32.toNat_add, UInt32.toNat_one]
  omega

theorem add_one_ne_zero {w bound : UInt32} (h : w < bound) : w + 1 ≠ 0 := by
  intro hzero
  have hone := toNat_add_one h
  rw [hzero] at hone
  cases hone

theorem toNat_sub_one {w : UInt32} (h : w ≠ 0) : (w - 1).toNat = w.toNat - 1 := by
  have hne : w.toNat ≠ 0 := fun hzero => h (UInt32.toNat_inj.mp hzero)
  have hle : 1 ≤ w := by
    rw [UInt32.le_iff_toNat_le, UInt32.toNat_one]
    omega
  rw [UInt32.toNat_sub_of_le _ _ hle, UInt32.toNat_one]

/-- A word below another one is not the largest. -/
theorem increase_of_lt {w bound : UInt32} (h : w < bound) : increase w r = .ok (w + 1) r := by
  unfold increase
  rw [if_neg (add_one_ne_zero h)]
  rfl

theorem decrease_of_ne {w : UInt32} (h : w ≠ 0) : decrease w r = .ok (w - 1) r := by
  unfold decrease
  rw [if_neg h]
  rfl

theorem decrease_of_lt {w bound : UInt32} (h : w < bound) : decrease (w + 1) r = .ok w r := by
  have hdecrease := decrease_of_ne (r := r) (add_one_ne_zero h)
  rwa [UInt32.add_sub_cancel] at hdecrease

end Act

namespace Eval

variable {σ α β : Type} {s : State σ}

theorem bind_get {k : State σ → Eval σ β} : (get >>= k) s = k s s := rfl

theorem bind_modify {f : State σ → State σ} {k : Unit → Eval σ β} :
    ((modify f : Eval σ Unit) >>= k) s = k () (f s) := rfl

theorem bind_setScanner {t : Scanner} {k : Unit → Eval σ β} :
    (setScanner t >>= k) s = k () { s with scanner := t } := rfl

theorem bind_cursor {k : Cursor → Eval σ β} : (cursor >>= k) s = k s.scanner.cursor s := rfl

theorem bind_skippedCursor {k : Cursor → Eval σ β} :
    (skippedCursor >>= k) s = k s.scanner.skippedCursor s := rfl

end Eval

namespace Machine

open Act

variable {σ : Type}

/-- The engine that does the work of a machine and checks nothing. -/
def engine (mc : Machine σ) : Engine σ :=
  ⟨mc.rules, ⟨mc.fuelLimit.toNat, mc.depthLimit.toNat⟩, mc.tracer⟩

/-- The offset of a cursor in the text of the machine. -/
structure At (mc : Machine σ) (offset : Nat) (c : Cursor) : Prop where
  offset_eq : offset = c.offset
  text_eq : c.text = mc.source

/-- The registers hold a state, while `d` evaluations and `q` typed leaves are
open. -/
structure Holds (mc : Machine σ) (d q : UInt32) (r : Registers σ) (s : State σ) : Prop where
  position : mc.At r.position s.scanner.cursor
  marks : r.marks = s.scanner.marks.map Cursor.offset
  marks_text : ∀ mark ∈ s.scanner.marks, mark.text = mc.source
  place : mc.At r.place s.furthest.cursor
  expected : r.expected = s.furthest.expected
  skip : s.scanner.skip = mc.skip
  suppressed : r.suppressed = 0
  skipping : s.scanner.suppressed = 0
  fuel : r.fuel.toNat = s.fuel
  depth : r.depth = d
  depth_eq : s.depth = d.toNat
  depth_le : d ≤ mc.depthLimit
  quiet : r.quiet = q
  quiet_eq : s.quiet = q.toNat
  quiet_le : q ≤ d
  trace : r.trace = s.trace

/-- What a machine does is what an engine does: their results are related, or
they end with the same error. In both cases the registers are in bounds, and
`d` evaluations and `q` typed leaves are open. -/
inductive Mirrors (mc : Machine σ) (d q : UInt32) {α β : Type} (R : α → β → Prop) :
    EStateM.Result Stop (Registers σ) α → EStateM.Result ParseError (State σ) β → Prop
  | ok {a : α} {b : β} {r : Registers σ} {s : State σ} (related : R a b)
      (holds : mc.Holds d q r s) : Mirrors mc d q R (.ok a r) (.ok b s)
  | error {e : ParseError} {r : Registers σ} {s : State σ} (inBounds : mc.InBounds r)
      (depth : r.depth = d) (quiet : r.quiet = q) (trace : r.trace = s.trace) :
      Mirrors mc d q R (.error (.error e) r) (.error e s)

variable {mc : Machine σ} {d q : UInt32} {r : Registers σ} {s : State σ}

theorem At.boundary {offset : Nat} {c : Cursor} (h : mc.At offset c) :
    Boundary mc.source offset := by
  rw [h.offset_eq, ← h.text_eq]
  exact c.boundary

theorem At.le_size {offset : Nat} {c : Cursor} (h : mc.At offset c) : offset ≤ mc.size := by
  rw [h.offset_eq, size, ← h.text_eq]
  exact c.offset_le_byteLength

theorem At.moved {offset : Nat} {c c' : Cursor} (h : mc.At offset c) (htext : c'.text = c.text) :
    mc.At c'.offset c' :=
  ⟨rfl, htext.trans h.text_eq⟩

namespace Holds

theorem inBounds (h : mc.Holds d q r s) : mc.InBounds r where
  position := h.position.boundary
  marks := by
    intro offset hoffset
    rw [h.marks] at hoffset
    obtain ⟨mark, hmark, rfl⟩ := List.mem_map.mp hoffset
    exact h.marks_text mark hmark ▸ mark.boundary
  place := h.place.boundary
  depth := by
    rw [h.depth]
    exact h.depth_le
  quiet := by
    rw [h.quiet, h.depth]
    exact h.quiet_le

theorem moved (h : mc.Holds d q r s) {offset : Nat} {c : Cursor} (hc : mc.At offset c) :
    mc.Holds d q { r with position := offset } { s with scanner := s.scanner.reset c } :=
  { h with position := hc }

/-- The newest mark, and what is held without it. -/
theorem unmarked (h : mc.Holds d q r s) {mark : Cursor} {marks : List Cursor}
    (hmarks : s.scanner.marks = mark :: marks) :
    mc.At mark.offset mark ∧ mc.Holds d q { r with marks := marks.map Cursor.offset }
      { s with scanner := { s.scanner with marks := marks } } := by
  have htext := h.marks_text
  rw [hmarks] at htext
  obtain ⟨hmark, hothers⟩ := List.forall_mem_cons.mp htext
  exact ⟨⟨rfl, hmark⟩, { h with marks := rfl, marks_text := hothers }⟩

theorem fuel_ne (h : mc.Holds d q r s) (hfuel : r.fuel ≠ 0) : s.fuel ≠ 0 := by
  rw [← h.fuel]
  exact fun hzero => hfuel (UInt32.toNat_inj.mp hzero)

end Holds

theorem bind_position {α : Type} {k : Nat → Act σ α} : (position >>= k) r = k r.position r := rfl

namespace Mirrors

variable {α β γ δ : Type} {R : α → β → Prop} {R' : γ → δ → Prop}

/-- Actions that mirror steps are put together. -/
theorem bind {act : Act σ α} {step : Eval σ β} {k : α → Act σ γ} {k' : β → Eval σ δ}
    (h : mc.Mirrors d q R (act r) (step s))
    (hk : ∀ a b r' s', act r = .ok a r' → step s = .ok b s' → R a b → mc.Holds d q r' s' →
      mc.Mirrors d q R' (k a r') (k' b s')) :
    mc.Mirrors d q R' ((act >>= k) r) ((step >>= k') s) := by
  generalize hact : act r = result at h
  generalize hstep : step s = result' at h
  cases h with
  | ok related holds =>
    rw [Act.bind_of_ok hact, Eval.bind_of_ok hstep]
    exact hk _ _ _ _ hact hstep related holds
  | error inBounds depth quiet trace =>
    rw [Act.bind_of_error hact, Eval.bind_of_error hstep]
    exact error inBounds depth quiet trace

theorem pure {a : α} {b : β} (h : mc.Holds d q r s) (hab : R a b) :
    mc.Mirrors d q R ((Pure.pure a : Act σ α) r) ((Pure.pure b : Eval σ β) s) :=
  ok hab h

theorem fail (h : mc.Holds d q r s) (e : ParseError) :
    mc.Mirrors d q R (Act.fail e r) ((throw e : Eval σ β) s) :=
  error h.inBounds h.depth h.quiet h.trace

theorem update {f : Registers σ → Registers σ} (f' : State σ → State σ)
    (h : mc.Holds d q (f r) (f' s)) :
    mc.Mirrors d q Eq (mc.update f r) ((modify f' : Eval σ Unit) s) := by
  unfold Machine.update
  rw [if_pos h.inBounds]
  exact ok rfl h

/-- What follows an action without a result. -/
theorem andThen {act : Act σ Unit} {step : Eval σ Unit} {k : Unit → Act σ γ}
    {k' : Unit → Eval σ δ} (h : mc.Mirrors d q Eq (act r) (step s))
    (hk : ∀ r' s', mc.Holds d q r' s' → mc.Mirrors d q R' (k () r') (k' () s')) :
    mc.Mirrors d q R' ((act >>= k) r) ((step >>= k') s) :=
  h.bind fun _ _ r' s' _ _ _ h' => hk r' s' h'

theorem then_pure {act : Act σ Unit} {step : Eval σ Unit} {a : α} {b : β}
    (h : mc.Mirrors d q Eq (act r) (step s)) (hab : R a b) :
    mc.Mirrors d q R ((act >>= fun _ => Pure.pure a) r) ((step >>= fun _ => Pure.pure b) s) :=
  h.andThen fun _ _ h' => pure h' hab

/-- Whether the cursor has moved on since a mark is the same to both. -/
theorem of_forward (h : mc.Holds d q r s) {mark : Nat} {c : Cursor} (hc : mc.At mark c)
    {onward back : Act σ α} {onward' back' : Eval σ β}
    (honward : mark < r.position → mc.Mirrors d q R (onward r) (onward' s))
    (hback : mc.Mirrors d q R (back r) (back' s)) :
    mc.Mirrors d q R ((do if mark < (← position) then onward else back) r)
      ((do if c.offset < (← Eval.cursor).offset then onward' else back') s) := by
  rw [bind_position, Eval.bind_cursor, ← hc.offset_eq, ← h.position.offset_eq]
  by_cases hforward : mark < r.position
  · rw [if_pos hforward, if_pos hforward]
    exact honward hforward
  · rw [if_neg hforward, if_neg hforward]
    exact hback

/-- What is attempted is closed in any case, and then an error is passed on. -/
theorem attempt {d' q' : UInt32} {act : Act σ α} {step : Eval σ α} {shut : Act σ Unit}
    {k : α → Act σ γ} {k' : α → Eval σ δ} (h : mc.Mirrors d' q' Eq (act r) (step s))
    (hshut : ∀ r', mc.InBounds r' → r'.depth = d' → r'.quiet = q' →
      shut r' = .ok () { r' with depth := d, quiet := q } ∧
        mc.InBounds { r' with depth := d, quiet := q })
    (hk : ∀ a r' s', mc.Holds d' q' r' s' →
      mc.Mirrors d q R' ((shut >>= fun _ => k a) r') (k' a s')) :
    mc.Mirrors d q R'
      ((do
        let result ← act.attempt
        shut
        k (← resume result)) r)
      ((step >>= k') s) := by
  generalize hact : act r = result at h
  generalize hstep : step s = result' at h
  cases h with
  | ok related holds =>
    subst related
    rw [Act.bind_of_ok (attempt_of_ok hact), Eval.bind_of_ok hstep]
    exact hk _ _ _ holds
  | error inBounds depth quiet trace =>
    obtain ⟨hshut, hclosed⟩ := hshut _ inBounds depth quiet
    rw [Act.bind_of_ok (attempt_of_error hact), Act.bind_of_ok hshut, Eval.bind_of_error hstep]
    exact error hclosed rfl rfl trace

/-- A machine tells what an engine tells. -/
theorem report_eq {result : EStateM.Result Stop (Registers σ) α}
    {result' : EStateM.Result ParseError (State σ) α} (h : mc.Mirrors d q Eq result result') :
    Act.report result = ((Peg.report result').1.mapError Stop.error, (Peg.report result').2) := by
  cases h with
  | ok related holds =>
    subst related
    exact congrArg (Prod.mk _) holds.trace
  | error inBounds depth quiet trace => exact congrArg (Prod.mk _) trace

end Mirrors

theorem tally_of_forward (h : mc.Holds d q r s) {count mark : Nat} (hcount : count ≤ mark)
    (hforward : mark < r.position) : mc.tally count r = .ok (count + 1) r := by
  have hsize := h.position.le_size
  unfold tally
  rw [if_pos (by omega)]
  rfl

section Words

theorem spend_of_empty (h : r.fuel = 0) :
    mc.spend r = .error (.error (.fuelExhausted mc.fuelLimit.toNat)) r := by
  unfold spend
  rw [Act.bind_get, if_pos h]
  rfl

theorem spend_of_fuel (h : mc.Holds d q r s) (hfuel : r.fuel ≠ 0) :
    ∃ r', mc.spend r = .ok () r' ∧ mc.Holds d q r' { s with fuel := s.fuel - 1 } := by
  have hspent : mc.Holds d q { r with fuel := r.fuel - 1 } { s with fuel := s.fuel - 1 } :=
    { h with fuel := by rw [toNat_sub_one hfuel, h.fuel] }
  refine ⟨_, ?_, hspent⟩
  unfold spend
  rw [Act.bind_get, if_neg hfuel, Act.bind_of_ok (decrease_of_ne hfuel)]
  exact if_pos hspent.inBounds

theorem descend_of_full (h : mc.Holds d q r s) (hd : d = mc.depthLimit) :
    mc.descend r = .error (.error (.recursionLimit mc.depthLimit.toNat)) r := by
  have hfull : mc.depthLimit ≤ r.depth := by
    rw [h.depth, hd]
    exact UInt32.le_refl _
  unfold descend
  rw [Act.bind_get, if_pos hfull]
  rfl

/-- Under the limit one more evaluation can be opened. -/
theorem descend_of_room (h : mc.Holds d q r s) (hd : d < mc.depthLimit) :
    ∃ r', mc.descend r = .ok () r' ∧ mc.Holds (d + 1) q r' { s with depth := s.depth + 1 } := by
  have hadd := toNat_add_one hd
  have hle : d + 1 ≤ mc.depthLimit := by
    rw [UInt32.le_iff_toNat_le, hadd]
    exact UInt32.lt_iff_toNat_lt.mp hd
  have hquiet : q ≤ d + 1 := by
    have hq := UInt32.le_iff_toNat_le.mp h.quiet_le
    rw [UInt32.le_iff_toNat_le, hadd]
    omega
  have hopen : mc.Holds (d + 1) q { r with depth := d + 1 } { s with depth := s.depth + 1 } :=
    { h with depth := rfl, depth_eq := by rw [hadd, h.depth_eq], depth_le := hle,
             quiet_le := hquiet }
  refine ⟨_, ?_, hopen⟩
  unfold descend
  rw [Act.bind_get, h.depth, if_neg (UInt32.not_le.mpr hd), Act.bind_of_ok (increase_of_lt hd)]
  exact if_pos hopen.inBounds

/-- Whatever an evaluation has done, it can be closed. -/
theorem ascend_of_inBounds (h : mc.InBounds r) (hdepth : r.depth = d + 1) (hquiet : r.quiet = q)
    (hd : d < mc.depthLimit) (hq : q ≤ d) :
    mc.ascend r = .ok () { r with depth := d, quiet := q } ∧
      mc.InBounds { r with depth := d, quiet := q } := by
  have hclosed : mc.InBounds { r with depth := d, quiet := q } :=
    { h with depth := UInt32.le_of_lt hd, quiet := hq }
  subst hquiet
  refine ⟨?_, hclosed⟩
  unfold ascend
  rw [Act.bind_get, hdepth, Act.bind_of_ok (decrease_of_lt hd)]
  exact if_pos hclosed

theorem ascend_of_holds (h : mc.Holds (d + 1) q r s) (hd : d < mc.depthLimit) (hq : q ≤ d) :
    ∃ r', mc.ascend r = .ok () r' ∧ mc.Holds d q r' { s with depth := s.depth - 1 } := by
  have hdepth : s.depth - 1 = d.toNat := by
    rw [h.depth_eq, toNat_add_one hd]
    rfl
  obtain ⟨hascend, -⟩ := ascend_of_inBounds h.inBounds h.depth h.quiet hd hq
  exact ⟨_, hascend, { h with
    depth := rfl, depth_eq := hdepth, depth_le := UInt32.le_of_lt hd, quiet := rfl,
    quiet_le := hq }⟩

/-- Inside an open evaluation one more typed leaf can be opened. -/
theorem hush_of_holds (h : mc.Holds d q r s) (hq : q < d) :
    ∃ r', mc.hush r = .ok () r' ∧ mc.Holds d (q + 1) r' { s with quiet := s.quiet + 1 } := by
  have hadd := toNat_add_one hq
  have hle : q + 1 ≤ d := by
    rw [UInt32.le_iff_toNat_le, hadd]
    exact UInt32.lt_iff_toNat_lt.mp hq
  have hopen : mc.Holds d (q + 1) { r with quiet := q + 1 } { s with quiet := s.quiet + 1 } :=
    { h with quiet := rfl, quiet_eq := by rw [hadd, h.quiet_eq], quiet_le := hle }
  refine ⟨_, ?_, hopen⟩
  unfold hush
  rw [Act.bind_get, h.quiet, Act.bind_of_ok (increase_of_lt hq)]
  exact if_pos hopen.inBounds

/-- Whatever a typed leaf has done, it can be closed. -/
theorem unhush_of_inBounds (h : mc.InBounds r) (hdepth : r.depth = d) (hquiet : r.quiet = q + 1)
    (hq : q < d) :
    mc.unhush r = .ok () { r with depth := d, quiet := q } ∧
      mc.InBounds { r with depth := d, quiet := q } := by
  have hclosed : mc.InBounds { r with depth := d, quiet := q } :=
    { h with depth := hdepth ▸ h.depth, quiet := UInt32.le_of_lt hq }
  subst hdepth
  refine ⟨?_, hclosed⟩
  unfold unhush
  rw [Act.bind_get, hquiet, Act.bind_of_ok (decrease_of_lt hq)]
  exact if_pos hclosed

theorem unhush_of_holds (h : mc.Holds d (q + 1) r s) (hq : q < d) :
    ∃ r', mc.unhush r = .ok () r' ∧ mc.Holds d q r' { s with quiet := s.quiet - 1 } := by
  have hquiet : s.quiet - 1 = q.toNat := by
    rw [h.quiet_eq, toNat_add_one hq]
    rfl
  obtain ⟨hunhush, -⟩ := unhush_of_inBounds h.inBounds h.depth h.quiet hq
  exact ⟨_, hunhush, { h with
    depth := rfl, quiet := rfl, quiet_eq := hquiet, quiet_le := UInt32.le_of_lt hq }⟩

end Words

end Machine

end Peg
