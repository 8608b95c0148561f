import Peg.Proofs.Soundness

/-!
The mark stack and the counters are in balance: whatever an evaluation opens
it closes again, so no sequence ever finds a mark that is not its own, and no
run ends in a fault of the mark stack.
-/
namespace Peg

open Eval BigStep

variable {σ : Type}

/-- An evaluation keeps all that does not have to do with its match. -/
theorem eval_kept {en : Engine σ} {room : Nat} {e : Element} {s t : State σ}
    {r : Option Contribution} (h : en.eval room e s = .ok r t) : ∃ n, Kept n s t := by
  have hfollows := eval_follows (k := contextOf en.rules s) en rfl room e s rfl
  obtain ⟨-, n, -, hkept, -⟩ := hfollows.of_ok h
  exact ⟨n, hkept⟩

theorem allOf_kept {en : Engine σ} {room : Nat} {children : List Element} {items : List Value}
    {s t : State σ} {r : Option (List Value)}
    (h : Engine.allOf (en.eval room) items children s = .ok r t) : ∃ n, Kept n s t := by
  have hfollows := eval_follows (k := contextOf en.rules s) en rfl room
  obtain ⟨-, -, n, -, hkept, -⟩ := (allOf_follows hfollows children items s rfl).of_ok h
  exact ⟨n, hkept⟩

theorem noMatch_sane {α : Type} (s : State σ) (post : α → State σ → Prop) :
    Leads Engine.noMatch s post Sane := by
  unfold Engine.noMatch
  simp only [leads_bind, leads_get, leads_throw]
  exact nofun

theorem demandEnd_sane (s : State σ) : Leads Engine.demandEnd s (fun _ _ => True) Sane := by
  unfold Engine.demandEnd
  simp only [leads_bind, leads_get, leads_setScanner]
  split
  · exact trivial
  · rw [leads_bind]
    exact leads_record fun _ => noMatch_sane _ _

theorem run_sane (en : Engine σ) (requireEnd : Bool) (root : Element) (s : State σ) :
    Leads (en.run requireEnd root) s (fun _ _ => True) Sane := by
  unfold Engine.run
  rw [leads_bind]
  have hroot := eval_follows (k := contextOf en.rules s) en rfl en.limits.depth root s rfl
  refine hroot.imp ?_
  rintro (_ | out) t -
  · exact noMatch_sane _ _
  · simp only [leads_bind, leads_cursor]
    split
    · rw [leads_bind]
      exact (demandEnd_sane t).imp fun _ _ _ => trivial
    · exact trivial

/-- No evaluation and no run blames the mark stack. An evaluation with a result
gives the mark stack and all counters back as it found them, and behind its
children a sequence finds the mark that it put on the stack before them. -/
theorem mark_stack_balanced (en : Engine σ) (room : Nat) (s : State σ) :
    (∀ e fault t, en.eval room e s ≠ .error (.scanner fault) t) ∧
      (∀ e r t, en.eval room e s = .ok r t →
        t.scanner.marks = s.scanner.marks ∧ t.depth = s.depth ∧ t.quiet = s.quiet ∧
          t.scanner.suppressed = s.scanner.suppressed) ∧
      (∀ children r t,
        Engine.allOf (en.eval room) [] children { s with scanner := s.scanner.pushMark } =
          .ok r t → t.scanner.marks = s.scanner.cursor :: s.scanner.marks) ∧
      (∀ (g : Grammar) (settings : Settings) (text : List Char) (tracer : Tracer σ) (trace : σ)
        (fault : ScanError),
        (g.evaluateWith settings text tracer trace).1 ≠ .error (.scanner fault)) := by
  refine ⟨?_, ?_, ?_, ?_⟩
  · intro e fault t h
    have hfollows := eval_follows (k := contextOf en.rules s) en rfl room e s rfl
    exact hfollows.of_error h fault rfl
  · intro e r t h
    obtain ⟨n, hkept⟩ := eval_kept h
    exact ⟨hkept.marks, hkept.depth, hkept.quiet, hkept.suppressed⟩
  · intro children r t h
    obtain ⟨n, hkept⟩ := allOf_kept h
    exact hkept.marks
  · intro g settings text tracer trace fault h
    have hrun := run_sane ⟨g.rules, settings.limits, tracer⟩ settings.requireEnd g.root
      (Grammar.startState settings text trace)
    unfold Grammar.evaluateWith at h
    dsimp only at h
    split at h
    · cases h
    · cases h
      exact hrun.of_error ‹_› fault rfl

end Peg
