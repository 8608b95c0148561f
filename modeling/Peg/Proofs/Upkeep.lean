import Peg.Proofs.Lockstep

/-!
What a run upholds.

A property of histories that no single event spoils holds of the history of the
whole run. Between its opening and its end, an evaluation adds to the history
what its sub-elements add, and tells of the steps back in between.
-/
namespace Peg

open Eval

/-- The step does not spoil what `Q` says of the history. -/
def Upholds (Q : List Event → Prop) {α : Type} (m : Eval (List Event) α) : Prop :=
  ∀ s, Q s.history → Leads m s (fun _ t => Q t.history) fun _ t => Q t.history

namespace Upholds

variable {Q : List Event → Prop} {α β : Type}

theorem bind {m : Eval (List Event) α} {k : α → Eval (List Event) β} (hm : Upholds Q m)
    (hk : ∀ a, Upholds Q (k a)) : Upholds Q (m >>= k) := by
  intro s hs
  rw [leads_bind]
  exact (hm s hs).imp fun a t ht => hk a t ht

theorem pure (a : α) : Upholds Q (Pure.pure a) :=
  fun _ hs => hs

theorem throw (e : ParseError) : Upholds Q (MonadExcept.throw e : Eval (List Event) α) :=
  fun _ hs => hs

theorem get : Upholds Q (MonadState.get : Eval (List Event) (State (List Event))) :=
  fun _ hs => hs

/-- A step that leaves the history alone. -/
theorem update {f : State (List Event) → State (List Event)} (h : ∀ s, (f s).trace = s.trace) :
    Upholds Q (modify f) := by
  intro s hs
  have hsame : (f s).history = s.history := congrArg List.reverse (h s)
  rw [leads_modify, hsame]
  exact hs

theorem cursor : Upholds Q Eval.cursor :=
  fun _ hs => hs

theorem skippedCursor : Upholds Q Eval.skippedCursor :=
  fun _ hs => hs

theorem reset (mark : Cursor) : Upholds Q (Eval.reset mark) :=
  update fun _ => rfl

theorem setScanner (scanner : Scanner) : Upholds Q (Eval.setScanner scanner) :=
  update fun _ => rfl

theorem quieten (f : Nat → Nat) :
    Upholds Q (modify fun s => { s with quiet := f s.quiet }) :=
  update fun _ => rfl

theorem ofMarks (result : Except ScanError Scanner) : Upholds Q (Eval.ofMarks result) := by
  cases result with
  | ok scanner => exact setScanner scanner
  | error e => exact throw _

theorem record (c : Cursor) (label : Unit → String) : Upholds Q (Eval.record c label) := by
  apply update
  intro s
  split
  · rfl
  · rfl

theorem backtracked (hback : ∀ h start stop, Q h → Q (h ++ [.backtrack start stop]))
    (start : Cursor) : Upholds Q (Eval.backtracked .recorder start) := by
  intro s hs
  unfold Eval.backtracked
  rw [leads_modify]
  dsimp only
  split
  · exact hs
  · have htold : (s.trace.cons (.backtrack start.offset s.scanner.position)).reverse =
        s.history ++ [.backtrack start.offset s.scanner.position] := List.reverse_cons
    show Q (s.trace.cons (.backtrack start.offset s.scanner.position)).reverse
    rw [htold]
    exact hback _ _ _ hs

theorem rewind (hback : ∀ h start stop, Q h → Q (h ++ [.backtrack start stop]))
    (mark : Cursor) : Upholds Q (Eval.rewind .recorder mark) :=
  cursor.bind fun start => (reset mark).bind fun _ => backtracked hback start

end Upholds

namespace Engine

variable {Q : List Event → Prop} {sub : Sub (List Event)} (hsub : ∀ e, Upholds Q (sub e))

include hsub

theorem allOf_upholds (es : List Element) (items : List Value) :
    Upholds Q (allOf sub items es) := by
  induction es generalizing items with
  | nil => exact .pure _
  | cons e rest ih =>
    apply (hsub e).bind
    intro r
    cases r with
    | none => exact .pure _
    | some out => exact ih _

theorem firstOf_upholds (es : List Element) : Upholds Q (firstOf sub es) := by
  induction es with
  | nil => exact .pure _
  | cons e rest ih =>
    apply (hsub e).bind
    intro r
    cases r with
    | none => exact ih
    | some out => exact .pure _

theorem rounds_upholds (child : Element) (most : Option Nat) (bound count : Nat)
    (items : List Value) : Upholds Q (rounds sub child most bound count items) := by
  induction bound generalizing count items with
  | zero => exact .pure _
  | succ bound ih =>
    unfold rounds
    split
    · apply Upholds.cursor.bind
      intro mark
      apply (hsub child).bind
      intro r
      cases r with
      | none => exact .pure _
      | some out =>
        apply Upholds.cursor.bind
        intro stop
        split
        · exact ih _ _
        · exact (Upholds.reset mark).bind fun _ => .pure _
    · exact .pure _

theorem firstItem_upholds (item : Element) (most : Option Nat) :
    Upholds Q (firstItem sub item most) := by
  unfold firstItem
  split
  · exact .pure _
  · apply Upholds.cursor.bind
    intro mark
    apply (hsub item).bind
    intro r
    cases r with
    | none => exact .pure _
    | some out =>
      apply Upholds.cursor.bind
      intro stop
      split
      · exact .pure _
      · exact (Upholds.reset mark).bind fun _ => .pure _

theorem convert_upholds (e child : Element) (f : String → Option Value) :
    Upholds Q (convert sub e child f) := by
  unfold convert
  apply Upholds.cursor.bind
  intro mark
  apply (Upholds.quieten (· + 1)).bind
  intro _
  apply (hsub child).bind
  intro r
  apply (Upholds.quieten (· - 1)).bind
  intro _
  apply Upholds.get.bind
  intro s
  cases r.bind fun out => f (leafText s.scanner mark out) with
  | some v => exact .pure _
  | none =>
    apply (Upholds.reset mark).bind
    intro _
    apply Upholds.skippedCursor.bind
    intro place
    exact (Upholds.record place _).bind fun _ => .pure _

variable (en : Engine (List Event))

theorem backref_upholds (name : String) (target : Nat) :
    Upholds Q (en.backref sub name target) := by
  unfold backref
  split
  · exact hsub _
  · exact .throw _

variable (hen : en.tracer = .recorder)
  (hback : ∀ h start stop, Q h → Q (h ++ [.backtrack start stop]))

include hen hback

theorem sequence_upholds (children : List Element) : Upholds Q (en.sequence sub children) := by
  unfold sequence
  rw [hen]
  apply Upholds.get.bind
  intro s
  apply (Upholds.setScanner _).bind
  intro _
  apply (allOf_upholds hsub children []).bind
  intro r
  cases r with
  | some items =>
    apply Upholds.get.bind
    intro t
    exact (Upholds.ofMarks _).bind fun _ => .pure _
  | none =>
    apply Upholds.cursor.bind
    intro start
    apply Upholds.get.bind
    intro t
    apply (Upholds.ofMarks _).bind
    intro _
    exact (Upholds.backtracked hback start).bind fun _ => .pure _

omit hsub in
theorem enough_upholds (start : Cursor) (min : Nat) (result : Nat × List Value) :
    Upholds Q (en.enough start min result) := by
  unfold enough
  rw [hen]
  split
  · exact (Upholds.rewind hback start).bind fun _ => .pure _
  · exact .pure _

theorem repetition_upholds (child : Element) (min : Nat) (most : Option Nat) :
    Upholds Q (en.repetition sub child min most) := by
  unfold repetition
  apply Upholds.get.bind
  intro s
  apply (rounds_upholds hsub child most _ 0 []).bind
  intro result
  exact enough_upholds en hen hback _ min result

theorem moreItems_upholds (item separator : Element) (most : Option Nat) (bound count : Nat)
    (items : List Value) : Upholds Q (en.moreItems sub item separator most bound count items) := by
  induction bound generalizing count items with
  | zero => exact .pure _
  | succ bound ih =>
    unfold moreItems
    rw [hen]
    split
    · apply Upholds.cursor.bind
      intro mark
      apply (hsub separator).bind
      intro r
      cases r with
      | none => exact .pure _
      | some sep =>
        apply (hsub item).bind
        intro r
        cases r with
        | none => exact (Upholds.rewind hback mark).bind fun _ => .pure _
        | some out =>
          apply Upholds.cursor.bind
          intro stop
          split
          · exact ih _ _
          · exact (Upholds.rewind hback mark).bind fun _ => .pure _
    · exact .pure _

theorem separated_upholds (item separator : Element) (min : Nat) (most : Option Nat) :
    Upholds Q (en.separated sub item separator min most) := by
  unfold separated
  apply Upholds.get.bind
  intro s
  apply (firstItem_upholds hsub item most).bind
  intro first
  dsimp only
  split
  · exact enough_upholds en hen hback _ min _
  · apply (moreItems_upholds hsub en hen hback item separator most _ _ _).bind
    intro result
    exact enough_upholds en hen hback _ min result

/-- Between its opening and its end an evaluation upholds what its sub-elements
and the steps back uphold. -/
theorem evalKind_upholds (e : Element) : Upholds Q (en.evalKind sub e) := by
  unfold evalKind
  cases e.kind with
  | literal text =>
    unfold Engine.literal
    apply Upholds.get.bind
    intro s
    split
    · exact (Upholds.setScanner _).bind fun _ => .pure _
    · exact (Upholds.record _ _).bind fun _ => .pure _
  | pattern regex capture =>
    unfold Engine.pattern
    apply Upholds.get.bind
    intro s
    split
    · exact (Upholds.setScanner _).bind fun _ => .pure _
    · exact (Upholds.record _ _).bind fun _ => .pure _
  | endOfInput =>
    unfold Engine.endOfInput
    apply Upholds.get.bind
    intro s
    dsimp only
    split
    · exact (Upholds.setScanner _).bind fun _ => .pure _
    · exact (Upholds.record _ _).bind fun _ => .pure _
  | sequence children => exact sequence_upholds hsub en hen hback children
  | alternation children => exact firstOf_upholds hsub children
  | repetition child min most => exact repetition_upholds hsub en hen hback child min most
  | separated item separator min most =>
    exact separated_upholds hsub en hen hback item separator min most
  | convert child name f => exact convert_upholds hsub e child f
  | rule key name body => exact hsub body
  | backref name target => exact backref_upholds hsub en name target

omit hsub hen hback in
theorem noMatch_upholds {α : Type} : Upholds Q (noMatch : Eval (List Event) α) :=
  Upholds.get.bind fun _ => .throw _

omit hsub hen hback in
theorem demandEnd_upholds : Upholds Q (demandEnd : Eval (List Event) Unit) := by
  unfold demandEnd
  apply Upholds.get.bind
  intro s
  apply (Upholds.setScanner _).bind
  intro _
  split
  · exact .pure _
  · exact (Upholds.record _ _).bind fun _ => noMatch_upholds

omit hsub hen hback in
/-- Behind the evaluation of its root a run has nothing more to tell. -/
theorem run_upholds (hroot : ∀ e, Upholds Q (en.eval en.limits.depth e)) (requireEnd : Bool)
    (root : Element) : Upholds Q (en.run requireEnd root) := by
  unfold run
  apply (hroot root).bind
  intro r
  cases r with
  | none => exact noMatch_upholds
  | some out =>
    apply Upholds.cursor.bind
    intro stop
    split
    · exact demandEnd_upholds.bind fun _ => .pure _
    · exact .pure _

end Engine

/-- What every evaluation upholds holds of the events of a run. -/
theorem Grammar.events_uphold {Q : List Event → Prop} (g : Grammar) (settings : Settings)
    (text : List Char) (hnone : Q [])
    (heval : ∀ e, Upholds Q
      (Engine.eval ⟨g.rules, settings.limits, .recorder⟩ settings.limits.depth e)) :
    Q (g.events settings text) := by
  let en : Engine (List Event) := ⟨g.rules, settings.limits, .recorder⟩
  have hrun : Leads (en.run settings.requireEnd g.root) (startState settings text [])
      (fun _ t => Q t.history) fun _ t => Q t.history :=
    Engine.run_upholds en heval settings.requireEnd g.root _ hnone
  unfold Leads at hrun
  unfold Grammar.events Grammar.evaluateWith
  dsimp only
  split
  · next heq =>
    rw [heq] at hrun
    exact hrun
  · next heq =>
    rw [heq] at hrun
    exact hrun

end Peg
