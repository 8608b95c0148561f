import Peg.Proofs.Limits
import Peg.Proofs.Recorded

/-!
The course of a whole run.

The events of a run are those of a walk from the start of the text, and the
notes of this walk are all that the run has to say when there is no match. A
fatal error breaks the walk off.
-/
namespace Peg

open Eval BigStep

/-- Where a scanner at an offset looks for the next literal or pattern. -/
def skippedAt (skip : Option CharSet) (text : List Char) (offset : Nat) : Nat :=
  match Cursor.ofOffset? text offset with
  | some c => ((Scanner.ofText text skip).reset c).skippedPosition
  | none => offset

/-- What some notes come to. -/
def Furthest.ofNotes (text : List Char) (ns : List Note) : Furthest :=
  ns.foldl Furthest.note ⟨Cursor.start text, []⟩

namespace Engine

variable {en : Engine (List Event)} {root : Element} {s t : State (List Event)}

/-- The last event of an evaluation closes it. -/
theorem eval_last (hen : en.tracer = .recorder) (room : Nat) (e : Element)
    (s : State (List Event)) :
    Leads (en.eval room e) s (fun r t => ∃ start, t.history.getLast? =
      some (if r.isSome then .success e start t.scanner.position
        else .failure e t.scanner.position)) fun _ _ => True := by
  cases room with
  | zero =>
    by_cases hfuel : s.fuel = 0
    · exact leads_error (eval_of_empty en e 0 hfuel) trivial
    · exact leads_error (eval_of_full en e hfuel) trivial
  | succ room =>
    by_cases hfuel : s.fuel = 0
    · exact leads_error (eval_of_empty en e _ hfuel) trivial
    unfold Leads
    rw [eval_of_fuel en e room hfuel]
    change Leads (en.evalKind (en.eval room) e >>= en.close e s.scanner.cursor)
      (s.opened en.tracer e) _ _
    rw [leads_bind]
    unfold Leads
    split
    · next r t _ =>
      cases r with
      | none =>
        rw [Engine.close, fail, hen]
        exact ⟨0, List.getLast?_reverse⟩
      | some out =>
        rw [Engine.close, succeed, hen]
        exact ⟨_, List.getLast?_reverse⟩
    · trivial

theorem run_of_error {e : ParseError} (h : en.eval en.limits.depth root s = .error e t)
    (requireEnd : Bool) : en.run requireEnd root s = .error e t :=
  bind_of_error h

theorem run_of_none (h : en.eval en.limits.depth root s = .ok none t) (requireEnd : Bool) :
    en.run requireEnd root s = .error t.furthest.error t := by
  unfold run
  rw [bind_of_ok h]
  rfl

theorem run_of_some {out : Contribution} (h : en.eval en.limits.depth root s = .ok (some out) t) :
    en.run false root s =
      .ok (out.toValue root.kind.isSequence, t.scanner.cursor.offset) t := by
  unfold run
  rw [bind_of_ok h]
  rfl

theorem run_of_some_atEnd {out : Contribution}
    (h : en.eval en.limits.depth root s = .ok (some out) t)
    (hend : t.scanner.skipNow.atEnd = true) :
    en.run true root s = .ok (out.toValue root.kind.isSequence, t.scanner.cursor.offset)
      { t with scanner := t.scanner.skipNow } := by
  unfold run
  rw [bind_of_ok h]
  have hcursor : cursor t = .ok t.scanner.cursor t := rfl
  exact (bind_of_ok hcursor).trans (bind_of_ok (demandEnd_of_atEnd hend))

theorem run_of_some_more {out : Contribution}
    (h : en.eval en.limits.depth root s = .ok (some out) t)
    (hmore : t.scanner.skipNow.atEnd = false) (hquiet : t.quiet = 0) :
    let furthest := t.furthest.note ⟨t.scanner.skippedCursor, "end of input"⟩
    en.run true root s =
      .error furthest.error { t with scanner := t.scanner.skipNow, furthest := furthest } := by
  intro furthest
  unfold run
  rw [bind_of_ok h]
  have hcursor : cursor t = .ok t.scanner.cursor t := rfl
  have hloud : ¬ 0 < t.quiet := by omega
  have hend := demandEnd_of_more (ne_true_of_eq_false hmore)
  rw [if_neg hloud] at hend
  exact (bind_of_ok hcursor).trans (bind_of_error hend)

end Engine

namespace Grammar

/-- All that the meaning of the root of a grammar depends on besides the text. -/
def context (g : Grammar) (settings : Settings) : Context :=
  ⟨g.rules, settings.skip, 0⟩

/-- How a run ends whose walk leads to `d` and leaves the notes `ns`. -/
inductive Ends (g : Grammar) (settings : Settings) (text : List Char) (d : Cursor)
    (ns : List Note) : Prop
  | unmatched (position : Nat)
      (last : (g.events settings text).getLast? = some (.failure g.root position))
      (result : g.evaluatePrefix settings text = .error (Furthest.ofNotes text ns).error)
  | matched (value : Value) (result : g.evaluatePrefix settings text = .ok (value, d.offset))
  /-- The root matches, but not as far as the end of the text. -/
  | unfinished (start : Nat)
      (last : (g.events settings text).getLast? = some (.success g.root start d.offset))
      (result : g.evaluatePrefix settings text = .error
        (Furthest.ofNotes text (ns ++ [⟨(g.context settings).skipped d, "end of input"⟩])).error)

variable (g : Grammar) (settings : Settings) (text : List Char)

theorem skippedAt_offset (c : Cursor) :
    skippedAt settings.skip c.text c.offset = ((g.context settings).skipped c).offset := by
  unfold skippedAt
  rw [c.ofOffset?_offset]
  rfl

/-- A run may as well be recorded. -/
theorem evaluatePrefix_eq_report :
    g.evaluatePrefix settings text =
      (report (Engine.run ⟨g.rules, settings.limits, .recorder⟩ settings.requireEnd g.root
        (startState settings text []))).1 := by
  have hrecorded := g.evaluateWith_eq_recorded settings text .silent ()
  rw [evaluateWith_eq_report .recorder] at hrecorded
  exact hrecorded

theorem events_eq_report :
    g.events settings text =
      (report (Engine.run ⟨g.rules, settings.limits, .recorder⟩ settings.requireEnd g.root
        (startState settings text []))).2.reverse := by
  unfold events
  rw [evaluateWith_eq_report]

/-- Every run goes the way of a walk, which leads to its end or is broken off. -/
theorem course :
    (∃ e, g.evaluatePrefix settings text = .error e ∧ e.isNoMatch = false ∧
        Cut (g.context settings) (Cursor.start text) (g.events settings text)) ∨
      ∃ d ns, Walk (g.context settings) (Cursor.start text) d (g.events settings text) ns ∧
        g.Ends settings text d ns := by
  let en : Engine (List Event) := ⟨g.rules, settings.limits, .recorder⟩
  let s : State (List Event) := startState settings text []
  have htours : Tours (g.context settings) (en.eval en.limits.depth) :=
    eval_tours en rfl rfl en.limits.depth
  have hroot := htours g.root s rfl
  have hclosed := Engine.eval_last (rfl : en.tracer = .recorder) en.limits.depth g.root s
  have hresult := g.evaluatePrefix_eq_report settings text
  have hevents := g.events_eq_report settings text
  cases heval : en.eval en.limits.depth g.root s with
  | error e t =>
    obtain ⟨hfatal, es, hhistory, hcut⟩ := hroot.of_error heval
    have hrun := Engine.run_of_error heval settings.requireEnd
    rw [hrun] at hresult hevents
    refine Or.inl ⟨e, hresult, hfatal, ?_⟩
    have hes : g.events settings text = es := hevents.trans hhistory
    rwa [hes]
  | ok r t =>
    obtain ⟨hstops, es, ns, htrip⟩ := hroot.of_ok heval
    obtain ⟨start, hlast⟩ := hclosed.of_ok heval
    have hfurthest : t.furthest = Furthest.ofNotes text ns := htrip.furthest
    suffices hend : g.events settings text = t.history ∧
        g.Ends settings text t.scanner.cursor ns by
      obtain ⟨hes, hends⟩ := hend
      have hwalk := htrip.walk
      rw [← (hes.trans htrip.history : g.events settings text = es)] at hwalk
      exact Or.inr ⟨_, ns, hwalk, hends⟩
    cases r with
    | none =>
      rw [Engine.run_of_none heval] at hresult hevents
      rw [hfurthest] at hresult
      exact ⟨hevents, .unmatched _ ((congrArg List.getLast? hevents).trans hlast) hresult⟩
    | some out =>
      cases hrequire : settings.requireEnd with
      | false =>
        rw [hrequire, Engine.run_of_some heval] at hresult hevents
        exact ⟨hevents, .matched _ hresult⟩
      | true =>
        rw [hrequire] at hresult hevents
        cases hover : t.scanner.skipNow.atEnd with
        | true =>
          rw [Engine.run_of_some_atEnd heval hover] at hresult hevents
          exact ⟨hevents, .matched _ hresult⟩
        | false =>
          have hrun := Engine.run_of_some_more heval hover htrip.quiet
          have hcontext : contextOf (g.context settings).rules t = g.context settings :=
            Toured.context ⟨es, ns, htrip⟩ rfl
          have hnotes : t.furthest.note ⟨t.scanner.skippedCursor, "end of input"⟩ =
              Furthest.ofNotes text (ns ++
                [⟨(g.context settings).skipped t.scanner.cursor, "end of input"⟩]) := by
            rw [skippedCursor_eq hcontext, hfurthest, Furthest.ofNotes, Furthest.ofNotes,
              List.foldl_append]
            rfl
          rw [hrun] at hresult hevents
          rw [hnotes] at hresult
          exact ⟨hevents, .unfinished _ ((congrArg List.getLast? hevents).trans hlast) hresult⟩

end Grammar

end Peg
