import Peg.Proofs.Outcome

/-!
Two unobserved runs that do the same.

A twin of a run has its scanner, its fuel and its depth at every point, and has
the furthest failure at the same place. Whether the labels noted there are the
same too is left open by `labels`. Steps that keep runs twins are put together
to steps that do.
-/
namespace Peg

/-- The error without what was expected. -/
def ParseError.unlabelled : ParseError → ParseError
  | noMatch position line column _ => noMatch position line column []
  | e => e

/-- The same error, or at least the same but for the labels. -/
structure ParseError.Like (labels : Bool) (e e' : ParseError) : Prop where
  unlabelled_eq : e.unlabelled = e'.unlabelled
  eq : labels = true → e = e'

theorem ParseError.Like.refl (labels : Bool) (e : ParseError) : e.Like labels e :=
  ⟨rfl, fun _ => rfl⟩

/-- Two runs stand at the same point. -/
structure Twin (labels : Bool) (s t : State Unit) : Prop where
  scanner : t.scanner = s.scanner
  fuel : t.fuel = s.fuel
  depth : t.depth = s.depth
  quiet : t.quiet = s.quiet
  cursor : t.furthest.cursor = s.furthest.cursor
  expected : labels = true → t.furthest.expected = s.furthest.expected

/-- The outcomes of a step in two runs: results that `Q` relates, or the same
error. -/
inductive Matched (labels : Bool) {α β : Type} (Q : α → β → Prop) :
    EStateM.Result ParseError (State Unit) α → EStateM.Result ParseError (State Unit) β → Prop
  | ok {a : α} {b : β} {s t : State Unit} (related : Q a b) (twin : Twin labels s t) :
      Matched labels Q (.ok a s) (.ok b t)
  | error {e e' : ParseError} {s t : State Unit} (like : e.Like labels e') :
      Matched labels Q (.error e s) (.error e' t)

/-- The two steps keep runs twins. -/
def Sim (labels : Bool) {α β : Type} (Q : α → β → Prop) (m : Eval Unit α) (m' : Eval Unit β) :
    Prop :=
  ∀ s t, Twin labels s t → Matched labels Q (m s) (m' t)

namespace Sim

open Eval

variable {labels : Bool} {α β α' β' : Type}

theorem bind {Q : α → β → Prop} {R : α' → β' → Prop} {m : Eval Unit α} {m' : Eval Unit β}
    {k : α → Eval Unit α'} {k' : β → Eval Unit β'} (hm : Sim labels Q m m')
    (hk : ∀ a b, Q a b → Sim labels R (k a) (k' b)) :
    Sim labels R (m >>= k) (m' >>= k') := by
  intro s t hst
  have hfirst := hm s t hst
  generalize hms : m s = r at hfirst
  generalize hmt : m' t = r' at hfirst
  cases hfirst with
  | ok related twin =>
    rw [bind_of_ok hms, bind_of_ok hmt]
    exact hk _ _ related _ _ twin
  | error like =>
    rw [bind_of_error hms, bind_of_error hmt]
    exact Matched.error like

theorem pure {Q : α → β → Prop} {a : α} {b : β} (h : Q a b) :
    Sim labels Q (Pure.pure a) (Pure.pure b) :=
  fun _ _ hst => Matched.ok h hst

theorem throw {Q : α → β → Prop} (e : ParseError) :
    Sim labels Q (MonadExcept.throw e) (MonadExcept.throw e) :=
  fun _ _ _ => Matched.error (.refl labels e)

/-- A step that goes on with what it sees. -/
theorem look {Q : α → β → Prop} {k : State Unit → Eval Unit α} {k' : State Unit → Eval Unit β}
    (hk : ∀ s t, Twin labels s t → Sim labels Q (k s) (k' t)) :
    Sim labels Q (get >>= k) (get >>= k') :=
  fun s t hst => hk s t hst s t hst

theorem update {f f' : State Unit → State Unit}
    (h : ∀ s t, Twin labels s t → Twin labels (f s) (f' t)) :
    Sim labels Eq (modify f) (modify f') :=
  fun s t hst => Matched.ok rfl (h s t hst)

theorem cursor : Sim labels Eq Eval.cursor Eval.cursor := by
  intro s t hst
  exact Matched.ok (by rw [hst.scanner]) hst

theorem skippedCursor : Sim labels Eq Eval.skippedCursor Eval.skippedCursor := by
  intro s t hst
  exact Matched.ok (by rw [hst.scanner]) hst

theorem setScanner (scanner : Scanner) :
    Sim labels Eq (Eval.setScanner scanner) (Eval.setScanner scanner) :=
  update fun _ _ hst => { hst with scanner := rfl }

theorem reset (mark : Cursor) : Sim labels Eq (Eval.reset mark) (Eval.reset mark) :=
  update fun _ _ hst => { hst with scanner := by rw [hst.scanner] }

theorem ofMarks (result : Except ScanError Scanner) :
    Sim labels Eq (Eval.ofMarks result) (Eval.ofMarks result) := by
  cases result with
  | ok scanner => exact setScanner scanner
  | error e => exact throw _

theorem quieten (f : Nat → Nat) :
    Sim labels Eq (modify fun s => { s with quiet := f s.quiet })
      (modify fun s => { s with quiet := f s.quiet }) :=
  update fun _ _ hst => { hst with quiet := by rw [hst.quiet] }

/-- Where the furthest failure is does not depend on the labels. -/
theorem record_cursor {f f' : Furthest} (h : f'.cursor = f.cursor) (c : Cursor)
    (label label' : Unit → String) :
    (f'.record c label').cursor = (f.record c label).cursor := by
  have hrecord : ∀ (f : Furthest) (label : Unit → String),
      (f.record c label).cursor = if f.cursor.offset < c.offset then c else f.cursor := by
    intro f label
    unfold Furthest.record
    by_cases hbefore : c.offset < f.cursor.offset
    · rw [if_pos hbefore, if_neg (Nat.lt_asymm hbefore)]
    · rw [if_neg hbefore]
      dsimp only
      split
      · rfl
      · split
        · rfl
        · rfl
  rw [hrecord, hrecord, h]

/-- Notes in the two runs may have different labels if labels do not count. -/
theorem record (c : Cursor) {label label' : Unit → String}
    (hlabel : labels = true → label () = label' ()) :
    Sim labels Eq (Eval.record c label) (Eval.record c label') := by
  apply update
  intro s t hst
  by_cases hquiet : 0 < s.quiet
  · rw [if_pos hquiet, if_pos (hst.quiet ▸ hquiet)]
    exact hst
  · rw [if_neg hquiet, if_neg (hst.quiet ▸ hquiet)]
    refine { hst with cursor := record_cursor hst.cursor c label label', expected := ?_ }
    intro hlabels
    have hfurthest : t.furthest = s.furthest := by
      have hcursor := hst.cursor
      have hexpected := hst.expected hlabels
      cases hs : s.furthest
      cases ht : t.furthest
      simp_all
    have hsame : label' = label := funext fun _ => (hlabel hlabels).symm
    rw [hfurthest, hsame]

section Tracing

variable (e e' : Element)

theorem backtracked (start : Cursor) :
    Sim labels Eq (Eval.backtracked .silent start) (Eval.backtracked .silent start) := by
  apply update
  intro s t hst
  have hstays : ∀ u : State Unit, (if start.offset = u.scanner.position then u else
      { u with trace := Tracer.silent.backtrack start.offset u.scanner.position u.trace }) = u := by
    intro u
    split
    · rfl
    · rfl
  dsimp only
  rw [hstays, hstays]
  exact hst

theorem rewind (mark : Cursor) :
    Sim labels Eq (Eval.rewind .silent mark) (Eval.rewind .silent mark) := by
  apply cursor.bind
  rintro start _ rfl
  apply (reset mark).bind
  intro _ _ _
  exact backtracked start

theorem enter : Sim labels Eq (Eval.enter .silent e) (Eval.enter .silent e') :=
  update fun _ _ hst => { hst with depth := by rw [hst.depth] }

theorem fail : Sim labels Eq (Eval.fail .silent e) (Eval.fail .silent e') :=
  update fun _ _ hst => { hst with depth := by rw [hst.depth] }

theorem succeed (entry : Cursor) :
    Sim labels Eq (Eval.succeed .silent e entry) (Eval.succeed .silent e' entry) :=
  update fun _ _ hst => { hst with depth := by rw [hst.depth] }

end Tracing

theorem spend (limits : Limits) : Sim labels Eq (Eval.spend limits) (Eval.spend limits) := by
  apply look
  intro s t hst
  rw [hst.fuel]
  split
  · exact throw _
  · intro _ _ _
    exact Matched.ok rfl { hst with fuel := rfl }

end Sim

end Peg
