import Peg.Proofs.Extension

/-!
Two ways to match a whole text.

A run may be told to see to it that nothing follows, or the end of the input
may be the last child of the root. Both ways skip, note and fail alike, and the
values are the same as long as the root gives its own value to a sequence.
-/
namespace Peg

open Eval BigStep

variable {σ : Type}

/-- A contribution of several items does not have just one. -/
def Contribution.Proper (out : Contribution) : Prop :=
  ∀ v, out ≠ .splice [v]

theorem Contribution.Proper.decorate {out : Contribution} (h : out.Proper) (d : Decor) :
    (out.decorate d).Proper := by
  unfold Contribution.decorate
  split
  · exact nofun
  · split
    · unfold Contribution.flatten
      split
      · exact nofun
      · rename_i hmany
        intro v hv
        cases hv
        exact hmany v rfl
      · exact h
    · exact h

/-- A value is not unwrapped unless it is asked for. -/
theorem Contribution.toValue_one (v : Value) : (Contribution.one v).toValue false = v := by
  cases v with
  | list items =>
    match items with
    | [] => rfl
    | [_] => rfl
    | _ :: _ :: _ => rfl
  | _ => rfl

/-- A proper contribution has the value of a sequence of its items, which the root
of a grammar unwraps. -/
theorem Contribution.Proper.toValue_eq {out : Contribution} (h : out.Proper) :
    out.toValue false = (Contribution.one (.list out.items)).toValue true := by
  cases out with
  | nothing => rfl
  | one v => exact toValue_one v
  | splice vs =>
    match vs with
    | [] => rfl
    | [v] => exact absurd rfl (h v)
    | _ :: _ :: _ => rfl

namespace BigStep

/-- Every element that matches contributes properly. -/
def ProperOutcome : Meaning := fun _ _ o _ _ =>
  ∀ out stop, o = some (out, stop) → out.Proper

theorem proper_of_one {v : Value} {d : Cursor} {out : Contribution} {stop : Cursor}
    (h : some (Contribution.one v, d) = some (out, stop)) : out.Proper := by
  cases h
  exact nofun

theorem First.proper {es : List Element} {c : Cursor} {o : Outcome} {n h : Nat}
    (hf : First ProperOutcome es c o n h) : ProperOutcome (.alternation es) c o n h := by
  induction hf with
  | nil c => exact nofun
  | hit first => exact first
  | next first others ih => exact ih

theorem OfKind.proper {k : Context} {kind : Kind Element} {c : Cursor} {o : Outcome} {n h : Nat}
    (hk : OfKind ProperOutcome k kind c o n h) : ProperOutcome (.ofKind kind) c o n h := by
  cases hk with
  | literal _ _ | pattern _ _ _ | repetition _ _ | separated _ _ | convert _ _ =>
    intro out stop ho
    exact proper_of_one ho
  | sequence all =>
    intro out stop ho
    obtain ⟨⟨items, d⟩, -, hone⟩ := Option.map_eq_some_iff.mp ho
    exact proper_of_one (congrArg some hone)
  | endOfInput _ _ =>
    intro out stop ho
    cases ho
    exact nofun
  | alternation first => exact first.proper
  | rule inner => exact inner
  | backref held inner => exact inner
  | noLiteral _ _ | noPattern _ _ | fewRounds _ _ | fewItems _ _ | refused _ _ | noConvert _
  | notEnd _ _ => exact nofun

theorem Yields.proper {k : Context} {e : Element} {c : Cursor} {o : Outcome} {n h : Nat}
    (hy : Yields k e c o n h) : ProperOutcome e c o n h := by
  apply hy.induct
  intro e c o n h hk out stop ho
  obtain ⟨⟨inner, d⟩, hinner, hdecorate⟩ := Option.map_eq_some_iff.mp ho
  cases hdecorate
  exact (hk.proper inner _ hinner).decorate e.decor

end BigStep

theorem eval_proper {en : Engine σ} {room : Nat} {e : Element} {s t : State σ}
    {out : Contribution} (h : en.eval room e s = .ok (some out) t) : out.Proper := by
  have hfollows := eval_follows (k := contextOf en.rules s) en rfl room e s rfl
  obtain ⟨-, n, height, -, -, hyields⟩ := hfollows.of_ok h
  exact hyields.proper out _ rfl

section Ending

variable {s : State σ}

theorem endOfInput_of_atEnd (e : Element) (h : s.scanner.skipNow.atEnd = true) :
    Engine.endOfInput e s = .ok (some .nothing) { s with scanner := s.scanner.skipNow } := by
  change (if s.scanner.skipNow.atEnd = true then _ else _ : Eval σ _) _ = _
  rw [if_pos h]
  rfl

theorem endOfInput_of_more (e : Element) (h : s.scanner.skipNow.atEnd ≠ true) :
    Engine.endOfInput e s =
      .ok none (s.recorded s.scanner.skippedCursor fun _ => e.label) := by
  change (if s.scanner.skipNow.atEnd = true then _ else _ : Eval σ _) _ = _
  rw [if_neg h]
  rfl

end Ending

section Beside

variable {en : Engine σ} {room : Nat} {s t : State σ} {start : Scanner} {cs : List Element}

/-- The end of a run whose root is a sequence that did not match. -/
theorem noMatch_beside_leave {α : Type} {Q : α → Value × Nat → Prop} (hst : Apart s t)
    (requireEnd unwrap : Bool) :
    Beside Q Engine.noMatch s
      (en.leave (.sequence cs) start none >>= Engine.answer requireEnd unwrap) t := by
  apply Beside.right
  apply leave_none_leads
  intro u htu _
  exact noMatch_beside (hst.trans htu)

/-- A run that sees to it that nothing follows, beside one whose last child is the
end of the input. -/
theorem answer_beside_endOfInput (hst : Peer s t) {out : Contribution} {values : List Value}
    {unwrap : Bool}
    (hvalue : out.toValue unwrap = (Contribution.one (.list values)).toValue true) :
    Beside (fun p q => p.1 = q.1) (Engine.answer true unwrap (some out)) s
      (Engine.allOf (en.eval room) values.reverse [.endOfInput] >>= fun r =>
        en.leave (.sequence cs) start r >>= Engine.answer false true) t := by
  have hanswer : Engine.answer (σ := σ) true unwrap (some out) = (do
      let stop ← Eval.cursor
      Engine.demandEnd
      return (out.toValue unwrap, stop.offset)) := rfl
  rw [hanswer, allOf_cons, bind_assoc]
  apply Beside.left
  rw [leads_cursor]
  apply Beside.open_right
  intro below u _ htu
  have hsu : Peer s u := hst.trans htu
  change Beside _ _ s (Engine.endOfInput .endOfInput >>= _) u
  unfold Beside
  by_cases hend : s.scanner.skipNow.atEnd = true
  · have hend' : u.scanner.skipNow.atEnd = true := hsu.atEnd_skipNow.trans hend
    rw [bind_of_ok (Engine.demandEnd_of_atEnd hend), bind_of_ok (endOfInput_of_atEnd _ hend')]
    apply Beside.right
    apply close_leads
    intro v huv
    change Beside _ _ _ (pure (some values.reverse.reverse) >>= _) v
    rw [pure_bind, List.reverse_reverse]
    apply Beside.right
    apply leave_some_leads
    intro w hvw
    change Beside _ _ _ (Eval.cursor >>= fun stop =>
      pure ((Contribution.one (.list values)).toValue true, stop.offset)) w
    apply Beside.right
    rw [leads_cursor]
    exact Beside.pure hvalue (hsu.skipNow.trans (huv.trans hvw))
  · have hend' : u.scanner.skipNow.atEnd ≠ true := by rwa [hsu.atEnd_skipNow]
    have hplace : u.scanner.skippedCursor = s.scanner.skippedCursor := hsu.skippedCursor
    have hskipped : Apart { s with scanner := s.scanner.skipNow } u := { hsu with }
    rw [bind_of_error (Engine.demandEnd_of_more hend), bind_of_ok (endOfInput_of_more _ hend'),
      hplace]
    apply Beside.right
    apply close_leads
    intro v huv
    -- Both ways give the end of the input the same name.
    have hnoted := hskipped.recorded s.scanner.skippedCursor fun _ => "end of input"
    rw [State.recorded_eq] at hnoted
    change Beside _ _ _ (pure none >>= _) v
    rw [pure_bind]
    exact noMatch_beside_leave (hnoted.trans huv.toApart) false true

/-- A root that is a sequence, beside the same sequence with the end behind it. -/
theorem run_beside_extended (hst : Peer s t) (xs : List Element) :
    Beside (fun p q => p.1 = q.1) (en.run true (.sequence xs)) s
      (en.run false (.sequence (xs ++ [.endOfInput]))) t := by
  rw [run_eq, run_eq]
  apply Beside.open_sequence_left
  intro below u hsu
  apply Beside.open_sequence_right
  intro below' v htv
  rw [allOf_append, bind_assoc]
  have huv : Peer u v := hsu.symm.trans (hst.trans htv)
  apply (allOf_beside (eval_beside en below below') huv xs []).bind
  rintro r _ u v rfl huv
  cases r with
  | none =>
    dsimp only
    rw [pure_bind]
    apply Beside.leave_none huv.toApart hst.cursor
    intro u v huv
    exact noMatch_beside huv.toApart
  | some values =>
    apply Beside.left
    apply leave_some_leads
    intro w huw
    exact answer_beside_endOfInput (huw.symm.trans huv) rfl

/-- Any other root that is not a sequence, beside the sequence of it and the end. -/
theorem run_beside_pair (hst : Peer s t) {e : Element} (he : e.kind.isSequence = false) :
    Beside (fun p q => p.1 = q.1) (en.run true e) s
      (en.run false (.sequence [e, .endOfInput])) t := by
  rw [run_eq, run_eq, he]
  apply Beside.open_sequence_right
  intro below v htv
  rw [allOf_cons, bind_assoc]
  apply (eval_beside en _ below e _ _ (hst.trans htv)).bind_of_ok
  rintro r _ u w hrun _ rfl huw
  cases r with
  | none => exact noMatch_beside_leave huw.toApart false true
  | some out =>
    -- A root that gave just one item would have it unwrapped by the sequence only.
    have hproper : out.Proper := eval_proper hrun
    have hitems : out.items.reverse ++ [] = out.items.reverse := List.append_nil _
    dsimp only
    rw [hitems]
    exact answer_beside_endOfInput huw hproper.toValue_eq

theorem run_beside_endOfInput (hst : Peer s t) {e : Element}
    (he : e.kind.isSequence = true → e.decor.isPlain = true) :
    Beside (fun p q => p.1 = q.1) (en.run true e) s (en.run false (e.plus .endOfInput)) t := by
  unfold Element.plus
  by_cases hsequence : e.kind.isSequence = true
  · have hplain : e.isPlainSequence = true := by
      unfold Element.isPlainSequence
      rw [hsequence, he hsequence]
      rfl
    obtain ⟨xs, rfl⟩ := Element.eq_sequence_of_isPlain hplain
    exact run_beside_extended hst xs
  · have hother : e.isPlainSequence ≠ true := by
      unfold Element.isPlainSequence
      rw [ne_eq, Bool.and_eq_true]
      exact fun h => hsequence h.1
    rw [if_neg hother]
    exact run_beside_pair hst (Bool.eq_false_iff.mpr hsequence)

end Beside

/-- Under any settings the demand for the end may be made by the grammar itself. -/
theorem evaluate_requireEnd_eq {e : Element} (rules : RuleTable) (settings : Settings)
    (text : List Char) (he : e.kind.isSequence = true → e.decor.isPlain = true)
    (h : Grammar.WithinLimits ⟨e, rules⟩ { settings with requireEnd := true } text)
    (h' : Grammar.WithinLimits ⟨e.plus .endOfInput, rules⟩ { settings with requireEnd := false }
      text) :
    Grammar.evaluate ⟨e, rules⟩ { settings with requireEnd := true } text =
      Grammar.evaluate ⟨e.plus .endOfInput, rules⟩ { settings with requireEnd := false } text := by
  have hstart : Peer (Grammar.startState { settings with requireEnd := true } text ())
      (Grammar.startState { settings with requireEnd := false } text ()) := Peer.refl _
  exact Grammar.map_evaluatePrefix_eq Prod.fst Prod.fst (run_beside_endOfInput hstart he) h h'

/-- To match a whole text is to match it with the end of the input behind the root.
The values and the errors are the same, unless the root is a sequence with
decorations. -/
theorem parseAll_eq_parse_endOfInput (e : Element) (rules : RuleTable) (text : List Char)
    (he : e.kind.isSequence = true → e.decor.isPlain = true)
    (h : Grammar.WithinLimits ⟨e, rules⟩ { requireEnd := true } text)
    (h' : Grammar.WithinLimits ⟨e.plus .endOfInput, rules⟩ {} text) :
    Grammar.parseAll ⟨e, rules⟩ text = Grammar.parse ⟨e.plus .endOfInput, rules⟩ text :=
  evaluate_requireEnd_eq rules {} text he h h'

/-- A list of letters with blanks around them, whose items a flattened root gives
one by one. -/
theorem parseAll_letters :
    let letters := (Element.oneOrMore (.literal "a")).flatten
    let text := ['a', ' ', 'a', ' ']
    Grammar.parseAll ⟨letters, []⟩ text = Grammar.parse ⟨letters.plus .endOfInput, []⟩ text := by
  intro letters text
  apply parseAll_eq_parse_endOfInput
  · exact nofun
  · exact .of_isOk (by decide +kernel)
  · exact .of_isOk (by decide +kernel)

end Peg
