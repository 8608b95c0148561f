import Peg.Proofs.Correspondence
import Peg.Proofs.WholeText

/-!
Corresponding runs do the same.

What keeps two runs together step by step keeps them together over a whole
evaluation: they take the same alternatives and the same number of rounds, and
contribute the same values. So they end alike: with the same value where the
cursors belong together, with the same fatal error, or without a match and with
notes that belong together.
-/
namespace Peg.Correspondence

open Eval

variable {σ : Type} {C : Correspondence σ} {g : Grammar} {en : Engine σ}
  (hC : C.Lawful g en.tracer) {room : Nat}

section Composite

theorem conclude_tandem {start start' : Scanner} (hC : C.Lawful g en.tracer)
    (hstart : C.place start.cursor start'.cursor) (r : Option (List Value)) :
    C.Tandem Eq (en.conclude start r) (en.conclude start' r) := by
  unfold Engine.conclude
  apply Tandem.bind
  · exact Tandem.update fun _ _ hs => { hs with }
  · intro _ _ _
    cases r with
    | some items => exact Tandem.pure rfl
    | none =>
      apply (Tandem.rewind hC hstart).bind
      intro _ _ _
      exact Tandem.pure rfl

theorem enough_tandem (hC : C.Lawful g en.tracer) {start start' : Cursor}
    (hstart : C.place start start') (min : Nat) (p : Nat × List Value) :
    C.Tandem Eq (en.enough start min p) (en.enough start' min p) := by
  unfold Engine.enough
  split
  · apply (Tandem.rewind hC hstart).bind
    intro _ _ _
    exact Tandem.pure rfl
  · exact Tandem.pure rfl

variable {child : Element} (hchild : C.Tandem Eq (en.eval room child) (en.eval room child))

theorem allOf_tandem {children : List Element}
    (hsub : ∀ e ∈ children, C.Tandem Eq (en.eval room e) (en.eval room e)) (items : List Value) :
    C.Tandem Eq (Engine.allOf (en.eval room) items children)
      (Engine.allOf (en.eval room) items children) := by
  induction children generalizing items with
  | nil => exact Tandem.pure rfl
  | cons e rest ih =>
    apply (hsub e (by simp)).bind
    rintro r _ rfl
    cases r with
    | none => exact Tandem.pure rfl
    | some out => exact ih (fun e he => hsub e (by simp [he])) _

include hC in
theorem sequence_tandem {children : List Element}
    (hsub : ∀ e ∈ children, C.Tandem Eq (en.eval room e) (en.eval room e)) :
    C.Tandem Eq (en.sequence (en.eval room) children) (en.sequence (en.eval room) children) := by
  intro s s' hs
  have hpushed : C.Facing { s with scanner := s.scanner.pushMark }
      { s' with scanner := s'.scanner.pushMark } := { hs with }
  have hsteps : C.Tandem Eq (Engine.allOf (en.eval room) [] children >>= en.conclude s.scanner)
      (Engine.allOf (en.eval room) [] children >>= en.conclude s'.scanner) := by
    apply (allOf_tandem hsub []).bind
    rintro r _ rfl
    exact conclude_tandem hC hs.place r
  rw [sequence_eq, sequence_eq]
  exact hsteps _ _ hpushed

theorem firstOf_tandem {children : List Element}
    (hsub : ∀ e ∈ children, C.Tandem Eq (en.eval room e) (en.eval room e)) :
    C.Tandem Eq (Engine.firstOf (en.eval room) children)
      (Engine.firstOf (en.eval room) children) := by
  induction children with
  | nil => exact Tandem.pure rfl
  | cons e rest ih =>
    apply (hsub e (by simp)).bind
    rintro r _ rfl
    cases r with
    | none => exact ih fun e he => hsub e (by simp [he])
    | some out => exact Tandem.pure rfl

include hC hchild

/-- A round moves the cursor in both runs or in neither. -/
theorem rounds_tandem (most : Option Nat) (bound count : Nat) (items : List Value) :
    C.Tandem Eq (Engine.rounds (en.eval room) child most bound count items)
      (Engine.rounds (en.eval room) child most bound count items) := by
  induction bound generalizing count items with
  | zero => exact Tandem.pure rfl
  | succ bound ih =>
    unfold Engine.rounds
    split
    · apply Tandem.cursor.bind
      intro mark mark' hmark
      apply hchild.bind
      rintro r _ rfl
      cases r with
      | none => exact Tandem.pure rfl
      | some out =>
        apply Tandem.cursor.bind
        intro stop stop' hstop
        apply Tandem.ite (hC.lt_iff hmark hstop)
        · exact ih _ _
        · apply (Tandem.reset hmark).bind
          intro _ _ _
          exact Tandem.pure rfl
    · exact Tandem.pure rfl

theorem repetition_tandem (min : Nat) (most : Option Nat) :
    C.Tandem Eq (en.repetition (en.eval room) child min most)
      (en.repetition (en.eval room) child min most) := by
  unfold Engine.repetition
  apply Tandem.look
  intro s s' hs
  rw [hs.fuel]
  apply (rounds_tandem hC hchild most _ 0 []).bind
  rintro p _ rfl
  exact enough_tandem hC hs.place min p

theorem firstItem_tandem (most : Option Nat) :
    C.Tandem Eq (Engine.firstItem (en.eval room) child most)
      (Engine.firstItem (en.eval room) child most) := by
  unfold Engine.firstItem
  split
  · exact Tandem.pure rfl
  · apply Tandem.cursor.bind
    intro mark mark' hmark
    apply hchild.bind
    rintro r _ rfl
    cases r with
    | none => exact Tandem.pure rfl
    | some out =>
      apply Tandem.cursor.bind
      intro stop stop' hstop
      apply Tandem.ite (hC.lt_iff hmark hstop)
      · exact Tandem.pure rfl
      · apply (Tandem.reset hmark).bind
        intro _ _ _
        exact Tandem.pure rfl

variable {separator : Element}
  (hseparator : C.Tandem Eq (en.eval room separator) (en.eval room separator))

include hseparator

theorem moreItems_tandem (most : Option Nat) (bound count : Nat) (items : List Value) :
    C.Tandem Eq (en.moreItems (en.eval room) child separator most bound count items)
      (en.moreItems (en.eval room) child separator most bound count items) := by
  induction bound generalizing count items with
  | zero => exact Tandem.pure rfl
  | succ bound ih =>
    have hback : ∀ mark mark', C.place mark mark' →
        C.Tandem Eq (do rewind en.tracer mark; return (count, items))
          (do rewind en.tracer mark'; return (count, items)) := by
      intro mark mark' hmark
      apply (Tandem.rewind hC hmark).bind
      intro _ _ _
      exact Tandem.pure rfl
    unfold Engine.moreItems
    split
    · apply Tandem.cursor.bind
      intro mark mark' hmark
      apply hseparator.bind
      rintro r _ rfl
      cases r with
      | none => exact Tandem.pure rfl
      | some sep =>
        apply hchild.bind
        rintro r _ rfl
        cases r with
        | none => exact hback mark mark' hmark
        | some out =>
          apply Tandem.cursor.bind
          intro stop stop' hstop
          apply Tandem.ite (hC.lt_iff hmark hstop)
          · exact ih _ _
          · exact hback mark mark' hmark
    · exact Tandem.pure rfl

theorem separated_tandem (min : Nat) (most : Option Nat) :
    C.Tandem Eq (en.separated (en.eval room) child separator min most)
      (en.separated (en.eval room) child separator min most) := by
  unfold Engine.separated
  apply Tandem.look
  intro s s' hs
  rw [hs.fuel]
  apply (firstItem_tandem hC hchild most).bind
  rintro ⟨count, items⟩ _ rfl
  dsimp only
  split
  · exact enough_tandem hC hs.place min _
  · apply (moreItems_tandem hC hchild hseparator most _ count items).bind
    rintro p _ rfl
    exact enough_tandem hC hs.place min p

end Composite

section Leaf

variable {e : Element} (used : g.Uses e)

include hC used

theorem literal_tandem {text : String} (hkind : e.kind = .literal text) :
    C.Tandem Eq (Engine.literal e text : Eval σ _) (Engine.literal e text) := by
  unfold Engine.literal Scanner.scanLiteral?
  apply Tandem.look
  intro s s' hs
  have hspot := hs.spot hC
  have hfound := hC.literal used hkind hspot
  dsimp only
  generalize Scanner.dropWord? text.toList s.scanner.skippedCursor.after = found at hfound
  generalize Scanner.dropWord? text.toList s'.scanner.skippedCursor.after = found' at hfound
  cases hfound with
  | some hplace =>
    apply (Tandem.goTo hs hplace).bind
    intro _ _ _
    exact Tandem.pure rfl
  | none =>
    apply (Tandem.record hC hspot _).bind
    intro _ _ _
    exact Tandem.pure rfl

theorem pattern_tandem {regex : Regex} {capture : Capture}
    (hkind : e.kind = .pattern regex capture) :
    C.Tandem Eq (Engine.pattern e regex capture : Eval σ _) (Engine.pattern e regex capture) := by
  unfold Engine.pattern Scanner.scanRegex?
  apply Tandem.look
  intro s s' hs
  have hspot := hs.spot hC
  have hfound := hC.pattern used hkind hspot
  generalize regex.matchFrom s.scanner.skippedCursor = found at hfound
  generalize regex.matchFrom s'.scanner.skippedCursor = found' at hfound
  cases hfound with
  | some hmatch =>
    obtain ⟨hvalue, hplace⟩ := hmatch
    apply (Tandem.goTo hs hplace).bind
    intro _ _ _
    exact Tandem.pure (by rw [hvalue])
  | none =>
    apply (Tandem.record hC hspot _).bind
    intro _ _ _
    exact Tandem.pure rfl

theorem endOfInput_tandem (hkind : e.kind = .endOfInput) :
    C.Tandem Eq (Engine.endOfInput e : Eval σ _) (Engine.endOfInput e) := by
  unfold Engine.endOfInput
  apply Tandem.look
  intro s s' hs
  have hspot : C.spot s.scanner.skipNow.cursor s'.scanner.skipNow.cursor := hs.spot hC
  have hend : s.scanner.skipNow.atEnd = s'.scanner.skipNow.atEnd := hC.atEnd hspot
  dsimp only
  apply Tandem.ite (by rw [hend])
  · apply (Tandem.goTo hs (hC.endOfInput used hkind hspot)).bind
    intro _ _ _
    exact Tandem.pure rfl
  · apply (Tandem.record hC hspot _).bind
    intro _ _ _
    exact Tandem.pure rfl

end Leaf

section Element

variable (hrules : en.rules = g.rules) {e : Element} (used : g.Uses e)

include hC in
theorem convert_tandem (e : Element) {child : Element}
    (hchild : C.Tandem Eq (en.eval room child) (en.eval room child))
    (f : String → Option Value) :
    C.Tandem Eq (Engine.convert (en.eval room) e child f)
      (Engine.convert (en.eval room) e child f) := by
  unfold Engine.convert
  apply Tandem.cursor.bind
  intro mark mark' hmark
  apply (Tandem.quieten (· + 1)).bind
  intro _ _ _
  apply hchild.bind
  rintro r _ rfl
  apply (Tandem.quieten (· - 1)).bind
  intro _ _ _
  apply Tandem.look
  intro s s' hs
  have htext : Engine.leafText s.scanner mark = Engine.leafText s'.scanner mark' :=
    funext (hs.leafText_eq hC hmark)
  rw [htext]
  cases r.bind fun out => f (Engine.leafText s'.scanner mark' out) with
  | some v => exact Tandem.pure rfl
  | none =>
    apply (Tandem.reset hmark).bind
    intro _ _ _
    apply (Tandem.skippedCursor hC).bind
    intro spot spot' hspot
    apply (Tandem.record hC hspot _).bind
    intro _ _ _
    exact Tandem.pure rfl

include hrules used

theorem backref_tandem
    (hsub : ∀ e, g.Uses e → C.Tandem Eq (en.eval room e) (en.eval room e)) {name : String}
    {target : Nat} (hkind : e.kind = .backref name target) :
    C.Tandem Eq (en.backref (en.eval room) name target)
      (en.backref (en.eval room) name target) := by
  unfold Engine.backref
  rw [hrules]
  cases hheld : g.rules.lookup target with
  | some body => exact hsub body (used.rule hkind hheld)
  | none => exact Tandem.throw rfl

include hC

theorem evalKind_tandem
    (hsub : ∀ e, g.Uses e → C.Tandem Eq (en.eval room e) (en.eval room e)) :
    C.Tandem Eq (en.evalKind (en.eval room) e) (en.evalKind (en.eval room) e) := by
  have hchildren : ∀ child ∈ e.kind.children, C.Tandem Eq (en.eval room child)
      (en.eval room child) := by
    intro child hmem
    exact hsub child (used.child hmem)
  unfold Engine.evalKind
  cases hkind : e.kind with
  | literal text => exact literal_tandem hC used hkind
  | pattern regex capture => exact pattern_tandem hC used hkind
  | endOfInput => exact endOfInput_tandem hC used hkind
  | backref name target => exact backref_tandem hrules used hsub hkind
  | sequence children =>
    rw [hkind] at hchildren
    exact sequence_tandem hC hchildren
  | alternation children =>
    rw [hkind] at hchildren
    exact firstOf_tandem hchildren
  | repetition child min max =>
    rw [hkind] at hchildren
    exact repetition_tandem hC (hchildren child (by simp [Kind.children])) min max
  | separated item separator min max =>
    rw [hkind] at hchildren
    exact separated_tandem hC (hchildren item (by simp [Kind.children]))
      (hchildren separator (by simp [Kind.children])) min max
  | convert child name f =>
    rw [hkind] at hchildren
    exact convert_tandem hC e (hchildren child (by simp [Kind.children])) f
  | rule key name body =>
    rw [hkind] at hchildren
    exact hchildren body (by simp [Kind.children])

/-- An element of the grammar is evaluated alike in both runs. -/
theorem eval_tandem (room : Nat) : C.Tandem Eq (en.eval room e) (en.eval room e) := by
  -- A reference may lead to a larger element, so the room is what goes down.
  induction room generalizing e with
  | zero =>
    unfold Engine.eval
    apply (Tandem.spend en.limits).bind
    intro _ _ _
    exact Tandem.throw rfl
  | succ room ih =>
    unfold Engine.eval
    apply (Tandem.spend en.limits).bind
    intro _ _ _
    apply Tandem.cursor.bind
    intro entry entry' hentry
    apply (Tandem.enter hC e).bind
    intro _ _ _
    apply (evalKind_tandem hC hrules used fun e he => ih he).bind
    rintro r _ rfl
    cases r with
    | some out =>
      apply (Tandem.succeed hC e hentry).bind
      intro _ _ _
      exact Tandem.pure rfl
    | none =>
      apply (Tandem.fail hC e).bind
      intro _ _ _
      exact Tandem.pure rfl

end Element

section Run

/-- What is told of a run: its result or error, and what was observed. -/
def told : EStateM.Result ParseError (State σ) (Value × Nat) →
    Except ParseError (Value × Nat) × σ
  | .ok r s => (.ok r, s.trace)
  | .error e s => (.error e, s.trace)

/-- What two runs come to: the same value at cursors that belong together, the same fatal
error, or no match and notes that belong together. -/
inductive Concluded (C : Correspondence σ) :
    Except ParseError (Value × Nat) × σ → Except ParseError (Value × Nat) × σ → Prop
  | ok (v : Value) {c c' : Cursor} {x x' : σ} (place : C.place c c') (seen : C.seen x x') :
      Concluded C (.ok (v, c.offset), x) (.ok (v, c'.offset), x')
  | fatal {e : ParseError} {x x' : σ} (fatal : e.isNoMatch = false) (seen : C.seen x x') :
      Concluded C (.error e, x) (.error e, x')
  | noMatch {f f' : Furthest} {x x' : σ} (notes : C.notes f f') (seen : C.seen x x') :
      Concluded C (.error f.error, x) (.error f'.error, x')

/-- What follows the root: either both runs demand an end that is there, or neither
finds it. -/
theorem answer_concluded {tracer : Tracer σ} (hC : C.Lawful g tracer) (requireEnd unwrap : Bool)
    (r : Option Contribution) {s s' : State σ} (hs : C.Facing s s') :
    C.Concluded (told (Engine.answer requireEnd unwrap r s))
      (told (Engine.answer requireEnd unwrap r s')) := by
  cases r with
  | none => exact .noMatch hs.notes hs.seen
  | some out =>
    cases requireEnd with
    | false => exact .ok _ hs.place hs.seen
    | true =>
      have hspot : C.spot s.scanner.skippedCursor s'.scanner.skippedCursor := hs.spot hC
      have hend : s.scanner.skipNow.atEnd = s'.scanner.skipNow.atEnd := hC.atEnd hspot
      have hanswer : ∀ u : State σ, Engine.answer true unwrap (some out) u =
          (Engine.demandEnd >>= fun _ => pure (out.toValue unwrap, u.scanner.cursor.offset)) u :=
        fun _ => rfl
      rw [hanswer, hanswer]
      by_cases hmore : s.scanner.skipNow.atEnd = true
      · rw [bind_of_ok (Engine.demandEnd_of_atEnd hmore),
          bind_of_ok (Engine.demandEnd_of_atEnd (hend ▸ hmore))]
        exact .ok _ hs.place hs.seen
      · rw [bind_of_error (Engine.demandEnd_of_more hmore),
          bind_of_error (Engine.demandEnd_of_more (hend ▸ hmore))]
        have hnoted := (hs.recorded hC hspot fun _ => "end of input").notes
        rw [State.recorded_eq, State.recorded_eq] at hnoted
        exact .noMatch hnoted hs.seen

/-- Runs that start together come to results that belong together. -/
theorem evaluateWith_concluded {tracer : Tracer σ} (hC : C.Lawful g tracer)
    {settings settings' : Settings} {text text' : List Char} {x x' : σ}
    (hstart : C.Facing (Grammar.startState settings text x)
      (Grammar.startState settings' text' x'))
    (hlimits : settings.limits = settings'.limits)
    (hend : settings.requireEnd = settings'.requireEnd) :
    C.Concluded (g.evaluateWith settings text tracer x)
      (g.evaluateWith settings' text' tracer x') := by
  have htold : ∀ (settings : Settings) (text : List Char) (x : σ),
      g.evaluateWith settings text tracer x =
        told (Engine.run ⟨g.rules, settings.limits, tracer⟩ settings.requireEnd g.root
          (Grammar.startState settings text x)) :=
    fun _ _ _ => rfl
  let en : Engine σ := ⟨g.rules, settings'.limits, tracer⟩
  rw [htold, htold, hlimits, hend, run_eq]
  have heval : C.Tandem Eq (en.eval en.limits.depth g.root) (en.eval en.limits.depth g.root) :=
    eval_tandem hC rfl Grammar.Uses.root en.limits.depth
  have hroot := heval _ _ hstart
  generalize hr : en.eval en.limits.depth g.root _ = r at hroot
  generalize hr' : en.eval en.limits.depth g.root (Grammar.startState settings' text' x') = r'
    at hroot
  cases hroot with
  | ok related facing =>
    subst related
    rw [bind_of_ok hr, bind_of_ok hr']
    exact answer_concluded hC _ _ _ facing
  | error fatal seen =>
    rw [bind_of_error hr, bind_of_error hr']
    exact .fatal fatal seen

end Run

end Peg.Correspondence
