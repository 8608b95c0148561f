import Peg.Proofs.Cutting
import Peg.Proofs.Fuel

/-!
A machine never panics.

What a machine makes of an element is what an engine makes of it, construct by
construct and so for every grammar, text and limit: on success, after a failed
match and on the way out of an error alike.
-/
namespace Peg

namespace Machine

open Act

variable {σ : Type} {mc : Machine σ} {d q : UInt32} {r : Registers σ} {s : State σ}

/-- Sub-elements are evaluated alike, while `d` evaluations are open. -/
def Reflects (mc : Machine σ) (d : UInt32) (part : Inner σ) (sub : Sub σ) : Prop :=
  ∀ e q r s, mc.Holds d q r s → mc.Mirrors d q Eq (part e r) (sub e s)

section Combination

variable {part : Inner σ} {sub : Sub σ}

theorem convert_mirrors (hsub : mc.Reflects d part sub) (h : mc.Holds d q r s) (hq : q < d)
    (e child : Element) (f : String → Option Value) :
    mc.Mirrors d q Eq (mc.convert part e child f r) (Engine.convert sub e child f s) := by
  obtain ⟨r', hhush, hopen⟩ := hush_of_holds h hq
  unfold convert Engine.convert
  -- The child is evaluated with one more leaf open, whatever comes of it.
  rw [bind_position, Act.bind_of_ok hhush, Eval.bind_cursor, Eval.bind_modify]
  apply Mirrors.attempt (hsub child (q + 1) _ _ hopen)
  · intro r' hbounds hdepth hquiet
    exact unhush_of_inBounds hbounds hdepth hquiet hq
  intro out r' s' h'
  obtain ⟨r'', hunhush, hclosed⟩ := unhush_of_holds h' hq
  have hconverted := converted_of_holds hclosed h.position f out
  rw [Act.bind_of_ok hunhush, Act.bind_of_ok hconverted, Eval.bind_modify, Eval.bind_get]
  dsimp only
  cases out.bind fun out => f (Engine.leafText s'.scanner s.scanner.cursor out) with
  | some v => exact Mirrors.pure hclosed rfl
  | none =>
    apply (reset_mirrors hclosed h.position).andThen
    intro r'' s'' hback
    rw [Act.bind_of_ok (skippedPosition_of_holds hback), Eval.bind_skippedCursor]
    exact (record_mirrors hback hback.skipped _).then_pure rfl

theorem allOf_mirrors (hsub : mc.Reflects d part sub) (h : mc.Holds d q r s) (es : List Element)
    (items : List Value) :
    mc.Mirrors d q Eq (allOf part items es r) (Engine.allOf sub items es s) := by
  induction es generalizing items r s with
  | nil => exact Mirrors.pure h rfl
  | cons e rest ih =>
    unfold allOf Engine.allOf
    apply Mirrors.bind (hsub e q r s h)
    rintro (_ | out) _ r' s' _ _ rfl h'
    · exact Mirrors.pure h' rfl
    · exact ih h' _

theorem firstOf_mirrors (hsub : mc.Reflects d part sub) (h : mc.Holds d q r s)
    (es : List Element) :
    mc.Mirrors d q Eq (firstOf part es r) (Engine.firstOf sub es s) := by
  induction es generalizing r s with
  | nil => exact Mirrors.pure h rfl
  | cons e rest ih =>
    unfold firstOf Engine.firstOf
    apply Mirrors.bind (hsub e q r s h)
    rintro (_ | out) _ r' s' _ _ rfl h'
    · exact ih h'
    · exact Mirrors.pure h' rfl

theorem pushMark_mirrors (h : mc.Holds d q r s) :
    mc.Mirrors d q Eq (mc.pushMark r) (Eval.setScanner s.scanner.pushMark s) := by
  have hmarks : r.position :: r.marks =
      (s.scanner.cursor :: s.scanner.marks).map Cursor.offset := by
    rw [h.position.offset_eq, h.marks, List.map_cons]
  have htext : ∀ mark ∈ s.scanner.cursor :: s.scanner.marks, mark.text = mc.source :=
    List.forall_mem_cons.mpr ⟨h.position.text_eq, h.marks_text⟩
  exact Mirrors.update (fun t => { t with scanner := s.scanner.pushMark })
    { h with marks := hmarks, marks_text := htext }

/-- Both find a mark, or neither does. -/
theorem popMark_mirrors (h : mc.Holds d q r s) :
    mc.Mirrors d q Eq (mc.popMark r) (Eval.ofMarks s.scanner.popMark s) := by
  unfold popMark Scanner.popMark
  rw [Act.bind_get, h.marks]
  cases hmarks : s.scanner.marks with
  | nil => exact Mirrors.fail h _
  | cons mark marks =>
    obtain ⟨-, hrest⟩ := h.unmarked hmarks
    exact Mirrors.update (fun t => { t with scanner := { s.scanner with marks := marks } }) hrest

theorem back_mirrors (h : mc.Holds d q r s) :
    mc.Mirrors d q Eq (mc.back r) (Eval.ofMarks s.scanner.back s) := by
  unfold back Scanner.back
  rw [Act.bind_get, h.marks]
  cases hmarks : s.scanner.marks with
  | nil => exact Mirrors.fail h _
  | cons mark marks =>
    obtain ⟨hmark, hrest⟩ := h.unmarked hmarks
    exact Mirrors.update
      (fun t => { t with scanner := { s.scanner with cursor := mark, marks := marks } })
      (hrest.moved hmark)

theorem sequence_mirrors (hsub : mc.Reflects d part sub) (h : mc.Holds d q r s)
    (children : List Element) :
    mc.Mirrors d q Eq (mc.sequence part children r) (mc.engine.sequence sub children s) := by
  unfold sequence Engine.sequence
  rw [Eval.bind_get]
  apply (pushMark_mirrors h).andThen
  intro r' s' hmarked
  apply Mirrors.bind (allOf_mirrors hsub hmarked children [])
  rintro (_ | items) _ r'' s'' _ _ rfl h'
  · dsimp only
    rw [bind_position, Eval.bind_cursor, Eval.bind_get]
    apply (back_mirrors h').andThen
    intro _ _ hback
    exact (backtracked_mirrors hback h'.position).then_pure rfl
  · dsimp only
    rw [Eval.bind_get]
    exact (popMark_mirrors h').then_pure rfl

/-- Every round that counts has moved on, so there are no more of them than
bytes behind the cursor. -/
theorem rounds_mirrors (hsub : mc.Reflects d part sub) (hspends : Spends sub) (child : Element)
    (most : Option Nat) (bound count : Nat) (items : List Value) (h : mc.Holds d q r s)
    (hbound : s.fuel < bound) (hcount : count ≤ r.position) :
    mc.Mirrors d q Eq (mc.rounds part child most bound count items r)
      (Engine.rounds sub child most bound count items s) := by
  induction bound generalizing count items r s with
  | zero => omega
  | succ bound ih =>
    unfold rounds Engine.rounds
    split
    · rw [bind_position, Eval.bind_cursor]
      apply Mirrors.bind (hsub child q r s h)
      rintro (_ | out) _ r' s' _ hs rfl h'
      · exact Mirrors.pure h' rfl
      · -- The round has cost fuel, so the bound still suffices for the others.
        have hspent : s'.fuel < s.fuel := (hspends child s).of_ok hs
        apply Mirrors.of_forward h' h.position
        · intro hforward
          rw [Act.bind_of_ok (tally_of_forward h' hcount hforward)]
          exact ih (count + 1) _ h' (by omega) (by omega)
        · exact (reset_mirrors h' h.position).then_pure rfl
    · exact Mirrors.pure h rfl

theorem enough_mirrors (h : mc.Holds d q r s) {start : Nat} {c : Cursor} (hc : mc.At start c)
    (min : Nat) (result : Nat × List Value) :
    mc.Mirrors d q Eq (mc.enough start min result r) (mc.engine.enough c min result s) := by
  unfold enough Engine.enough
  split
  · exact (rewind_mirrors h hc).then_pure rfl
  · exact Mirrors.pure h rfl

theorem repetition_mirrors (hsub : mc.Reflects d part sub) (hspends : Spends sub)
    (h : mc.Holds d q r s) (child : Element) (min : Nat) (most : Option Nat) :
    mc.Mirrors d q Eq (mc.repetition part child min most r)
      (mc.engine.repetition sub child min most s) := by
  unfold repetition Engine.repetition
  rw [Act.bind_get, Eval.bind_get, h.fuel]
  apply Mirrors.bind (rounds_mirrors hsub hspends child most (s.fuel + 1) 0 [] h (by omega)
    (Nat.zero_le _))
  rintro result _ _ _ _ _ rfl h'
  exact enough_mirrors h' h.position min result

theorem moreItems_mirrors (hsub : mc.Reflects d part sub) (hspends : Spends sub)
    (item separator : Element) (most : Option Nat) (bound count : Nat) (items : List Value)
    (h : mc.Holds d q r s) (hbound : s.fuel < bound) (hcount : count ≤ r.position) :
    mc.Mirrors d q Eq (mc.moreItems part item separator most bound count items r)
      (mc.engine.moreItems sub item separator most bound count items s) := by
  induction bound generalizing count items r s with
  | zero => omega
  | succ bound ih =>
    unfold moreItems Engine.moreItems
    split
    · rw [bind_position, Eval.bind_cursor]
      apply Mirrors.bind (hsub separator q r s h)
      rintro (_ | sep) _ r' s' _ hs rfl h'
      · exact Mirrors.pure h' rfl
      have hseparator : s'.fuel < s.fuel := (hspends separator s).of_ok hs
      apply Mirrors.bind (hsub item q r' s' h')
      rintro (_ | out) _ r'' s'' _ hs' rfl h''
      · -- A separator without an item behind it is given back.
        exact (rewind_mirrors h'' h.position).then_pure rfl
      · -- Only a round that has moved on is counted, so the count stays behind the position.
        have hitem : s''.fuel < s'.fuel := (hspends item s').of_ok hs'
        apply Mirrors.of_forward h'' h.position
        · intro hforward
          rw [Act.bind_of_ok (tally_of_forward h'' hcount hforward)]
          exact ih (count + 1) _ h'' (by omega) (by omega)
        · exact (rewind_mirrors h'' h.position).then_pure rfl
    · exact Mirrors.pure h rfl

theorem firstItem_mirrors (hsub : mc.Reflects d part sub) (h : mc.Holds d q r s) (item : Element)
    (most : Option Nat) :
    mc.Mirrors d q Eq (mc.firstItem part item most r) (Engine.firstItem sub item most s) := by
  unfold firstItem Engine.firstItem
  split
  · -- Not even one item is allowed.
    exact Mirrors.pure h rfl
  · rw [bind_position, Eval.bind_cursor]
    apply Mirrors.bind (hsub item q r s h)
    rintro (_ | out) _ r' s' _ _ rfl h'
    · exact Mirrors.pure h' rfl
    · apply Mirrors.of_forward h' h.position
      · intro hforward
        rw [Act.bind_of_ok (tally_of_forward h' (Nat.zero_le _) hforward)]
        exact Mirrors.pure h' rfl
      · exact (reset_mirrors h' h.position).then_pure rfl

/-- A first item that counts is not empty. -/
theorem firstItem_count (sub : Sub σ) (item : Element) (most : Option Nat) (s : State σ) :
    Eval.Leads (Engine.firstItem sub item most) s (fun result t => result.1 ≤ t.scanner.position)
      fun _ _ => True := by
  unfold Engine.firstItem
  split
  · exact Nat.zero_le _
  · rw [Eval.leads_bind, Eval.leads_cursor, Eval.leads_bind]
    have hsub : Eval.Leads (sub item) s (fun _ _ => True) fun _ _ => True := by
      unfold Eval.Leads
      split
      · trivial
      · trivial
    refine hsub.imp ?_
    rintro (_ | out) t -
    · exact Nat.zero_le _
    · rw [Eval.leads_bind, Eval.leads_cursor]
      split
      · next hforward => exact Nat.one_le_of_lt hforward
      · exact Nat.zero_le _

theorem separated_mirrors (hsub : mc.Reflects d part sub) (hspends : Spends sub)
    (h : mc.Holds d q r s) (item separator : Element) (min : Nat) (most : Option Nat) :
    mc.Mirrors d q Eq (mc.separated part item separator min most r)
      (mc.engine.separated sub item separator min most s) := by
  unfold separated Engine.separated
  rw [Act.bind_get, Eval.bind_get, h.fuel]
  apply Mirrors.bind (firstItem_mirrors hsub h item most)
  rintro ⟨count, items⟩ _ r' s' _ hs rfl h'
  -- The bound on the rounds was read before the first item, which can only have cost fuel.
  have hcount : count ≤ r'.position := by
    rw [h'.position.offset_eq]
    exact (firstItem_count sub item most s).of_ok hs
  have hfuel : s'.fuel ≤ s.fuel := (firstItem_fuel hspends item most s).of_ok hs
  dsimp only
  split
  · exact enough_mirrors h' h.position min (0, items)
  · apply Mirrors.bind (moreItems_mirrors hsub hspends item separator most (s.fuel + 1) count items
      h' (by omega) hcount)
    rintro result _ _ _ _ _ rfl h''
    exact enough_mirrors h'' h.position min result

theorem evalKind_mirrors (hsub : mc.Reflects d part sub) (hspends : Spends sub)
    (h : mc.Holds d q r s) (hq : q < d) (e : Element) :
    mc.Mirrors d q Eq (mc.evalKind part e r) (mc.engine.evalKind sub e s) := by
  unfold evalKind Engine.evalKind
  cases e.kind with
  | literal text => exact literal_mirrors h e text
  | pattern regex capture => exact pattern_mirrors h e regex capture
  | sequence children => exact sequence_mirrors hsub h children
  | alternation children => exact firstOf_mirrors hsub h children
  | repetition child min max => exact repetition_mirrors hsub hspends h child min max
  | separated item separator min max =>
    exact separated_mirrors hsub hspends h item separator min max
  | convert child name f => exact convert_mirrors hsub h hq e child f
  | endOfInput => exact endOfInput_mirrors h e
  | rule key name body => exact hsub body q r s h
  | backref name target =>
    change mc.Mirrors d q Eq (mc.backref part name target r)
      (mc.engine.backref sub name target s)
    have hrules : mc.engine.rules = mc.rules := rfl
    unfold backref Engine.backref
    rw [hrules]
    cases mc.rules.lookup target with
    | some e => exact hsub e q r s h
    | none => exact Mirrors.fail h _

end Combination

section Evaluation

/-- The place behind skipped characters does not depend on what was done since. -/
theorem skippedCursor_reset {d' q' : UInt32} {r' : Registers σ} {s' : State σ}
    (h : mc.Holds d q r s) (h' : mc.Holds d' q' r' s') :
    (s'.scanner.reset s.scanner.cursor).skippedCursor = s.scanner.skippedCursor := by
  have hskip : s'.scanner.skip = s.scanner.skip := h'.skip.trans h.skip.symm
  have hskipping : s'.scanner.suppressed = s.scanner.suppressed :=
    h'.skipping.trans h.skipping.symm
  unfold Scanner.skippedCursor Scanner.reset
  dsimp only
  rw [hskip, hskipping]

theorem close_mirrors {d' q' : UInt32} {r' : Registers σ} {s' : State σ}
    (h : mc.Holds d q r s) (h' : mc.Holds d' q' r' { s' with depth := s'.depth - 1 })
    (e : Element) (out : Option Contribution) :
    mc.Mirrors d' q' Eq (mc.close e r.position s.scanner.skippedCursor.offset out r')
      (mc.engine.close e s.scanner.cursor out s') := by
  have hentry : r.position = s.scanner.cursor.offset := h.position.offset_eq
  have hstop : r'.position = s'.scanner.position := h'.position.offset_eq
  -- The engine works out where the token starts only now, the machine did so on entry.
  have htoken : s.scanner.skippedCursor.offset =
      (s'.scanner.reset s.scanner.cursor).skippedPosition :=
    congrArg Cursor.offset (skippedCursor_reset h h').symm
  have hobserved (f : σ → σ) : mc.Holds d' q' { r' with trace := f r'.trace }
      { s' with depth := s'.depth - 1, trace := f s'.trace } :=
    { h' with trace := congrArg f h'.trace }
  unfold close Engine.close
  cases out with
  | none =>
    dsimp only
    rw [bind_position, hstop]
    exact (Mirrors.update _ (hobserved _)).then_pure rfl
  | some out =>
    dsimp only
    rw [bind_position, htoken, hentry, hstop]
    exact (Mirrors.update _ (hobserved _)).then_pure rfl

/-- An evaluation is opened in bounds, and whatever comes of it, it is closed in
bounds. -/
theorem visit_mirrors (h : mc.Holds d q r s) (hd : d < mc.depthLimit) (hfuel : r.fuel ≠ 0)
    {body : Act σ (Option Contribution)} {step : Eval σ (Option Contribution)} (e : Element)
    (hbody : ∀ r s, mc.Holds (d + 1) q r s → mc.Mirrors (d + 1) q Eq (body r) (step s)) :
    mc.Mirrors d q Eq (mc.visit body e r)
      ((step >>= mc.engine.close e s.scanner.cursor) (s.opened mc.tracer e)) := by
  -- Paying for the evaluation and opening it can fail in no other way than the engine's.
  obtain ⟨r', hspend, hspent⟩ := spend_of_fuel h hfuel
  obtain ⟨r'', hdescend, hopen⟩ := descend_of_room hspent hd
  have hposition : r''.position = s.scanner.position := hopen.position.offset_eq
  have hobserve := observe_of_inBounds hopen.inBounds (mc.tracer.enter e r''.position)
  have htrace : mc.tracer.enter e r''.position r''.trace =
      mc.tracer.enter e s.scanner.position s.trace := by
    rw [hposition, hopen.trace]
  have hopened : mc.Holds (d + 1) q
      { r'' with trace := mc.tracer.enter e r''.position r''.trace } (s.opened mc.tracer e) :=
    { hopen with trace := htrace }
  unfold visit
  rw [Act.bind_of_ok hspend, Act.bind_of_ok hdescend, bind_position,
    Act.bind_of_ok (skippedPosition_of_holds hopen), Act.bind_of_ok hobserve]
  apply Mirrors.attempt (hbody _ _ hopened)
  · -- Also on the way out of an error the depth is what it was, so it can go down again.
    intro r' hbounds hdepth hquiet
    exact ascend_of_inBounds hbounds hdepth hquiet hd h.quiet_le
  intro out r' s' h'
  obtain ⟨r'', hascend, hclosed⟩ := ascend_of_holds h' hd h.quiet_le
  rw [Act.bind_of_ok hascend]
  exact close_mirrors hopen hclosed e out

theorem eval_mirrors_of_empty (room : Nat) (e : Element) (h : mc.Holds d q r s)
    (hfuel : r.fuel = 0) :
    mc.Mirrors d q Eq (mc.eval room e r) (mc.engine.eval room e s) := by
  have hempty : s.fuel = 0 := by rw [← h.fuel, hfuel, UInt32.toNat_zero]
  have hvisit (body : Act σ (Option Contribution)) : mc.visit body e r =
      .error (.error (.fuelExhausted mc.fuelLimit.toNat)) r :=
    Act.bind_of_error (spend_of_empty hfuel)
  have heval : mc.eval room e r = .error (.error (.fuelExhausted mc.fuelLimit.toNat)) r := by
    cases room with
    | zero => exact hvisit _
    | succ room => exact hvisit _
  rw [heval, eval_of_empty mc.engine e room hempty]
  exact Mirrors.fail h _

/-- The depth keeps an evaluation from running out of levels: those that are left
make up the limit together with those that are open. -/
theorem eval_mirrors (room : Nat) (e : Element) (h : mc.Holds d q r s)
    (hroom : room + d.toNat = mc.depthLimit.toNat) :
    mc.Mirrors d q Eq (mc.eval room e r) (mc.engine.eval room e s) := by
  induction room generalizing d q r s e with
  | zero =>
    by_cases hfuel : r.fuel = 0
    · exact eval_mirrors_of_empty 0 e h hfuel
    -- As many are open as may be, so the machine does not get to look at the element.
    have hd : d = mc.depthLimit := UInt32.toNat_inj.mp (by omega)
    obtain ⟨r', hspend, hspent⟩ := spend_of_fuel h hfuel
    rw [eval_of_full mc.engine e (h.fuel_ne hfuel)]
    unfold eval visit
    rw [Act.bind_of_ok hspend, Act.bind_of_error (descend_of_full hspent hd)]
    exact Mirrors.fail hspent _
  | succ room ih =>
    by_cases hfuel : r.fuel = 0
    · exact eval_mirrors_of_empty (room + 1) e h hfuel
    have hd : d < mc.depthLimit := UInt32.lt_iff_toNat_lt.mpr (by omega)
    have hadd := toNat_add_one hd
    -- A typed leaf is itself an open evaluation, which leaves room to count one more.
    have hq : q < d + 1 := by
      have hle := UInt32.le_iff_toNat_le.mp h.quiet_le
      rw [UInt32.lt_iff_toNat_lt, hadd]
      omega
    have hsub : mc.Reflects (d + 1) (mc.eval room) (mc.engine.eval room) :=
      fun e _ _ _ h' => ih e h' (by omega)
    rw [eval_of_fuel mc.engine e room (h.fuel_ne hfuel)]
    exact visit_mirrors h hd hfuel e fun r s h' =>
      evalKind_mirrors hsub (eval_spends mc.engine room) h' hq e

theorem demandEnd_mirrors (h : mc.Holds d q r s) :
    mc.Mirrors d q Eq (mc.demandEnd r) (Engine.demandEnd s) := by
  have hmoved := h.moved h.skipped
  unfold demandEnd Engine.demandEnd
  rw [Act.bind_of_ok (skipNow_of_holds h), Act.bind_of_ok (atEnd_of_skipped h), Eval.bind_get,
    Eval.bind_setScanner]
  cases s.scanner.skipNow.atEnd with
  | true => exact Mirrors.pure hmoved rfl
  | false =>
    -- What is left over is noted where it starts, behind what was skipped.
    rw [if_neg Bool.false_ne_true, if_neg Bool.false_ne_true, bind_position]
    apply (record_mirrors hmoved hmoved.position _).andThen
    intro _ _ h'
    exact noMatch_mirrors h'

theorem run_mirrors (requireEnd : Bool) (root : Element) (h : mc.Holds 0 q r s) :
    mc.Mirrors 0 q Eq (mc.run requireEnd root r) (mc.engine.run requireEnd root s) := by
  unfold run Engine.run
  apply Mirrors.bind (eval_mirrors mc.depthLimit.toNat root h rfl)
  rintro (_ | out) _ r' s' _ _ rfl h'
  · exact noMatch_mirrors h'
  have hresult : (out.toValue root.kind.isSequence, r'.position) =
      (out.toValue root.kind.isSequence, s'.scanner.cursor.offset) := by
    rw [h'.position.offset_eq]
  dsimp only
  rw [bind_position, Eval.bind_cursor]
  cases requireEnd with
  | false => exact Mirrors.pure h' hresult
  | true => exact (demandEnd_mirrors h').then_pure hresult

theorem start_holds (g : Grammar) (skip : Option CharSet) (fuel depth : UInt32)
    (requireEnd : Bool) (text : List Char) (tracer : Tracer σ) (init : σ) :
    (g.machine skip fuel depth text tracer).Holds 0 0
      ((g.machine skip fuel depth text tracer).startRegisters init)
      (Grammar.startState ⟨skip, ⟨fuel.toNat, depth.toNat⟩, requireEnd⟩ text init) where
  position := ⟨rfl, rfl⟩
  marks := rfl
  marks_text := nofun
  place := ⟨rfl, rfl⟩
  expected := rfl
  skip := rfl
  suppressed := rfl
  skipping := rfl
  fuel := rfl
  depth := rfl
  depth_eq := rfl
  depth_le := UInt32.zero_le
  quiet := rfl
  quiet_eq := rfl
  quiet_le := UInt32.zero_le
  trace := rfl

end Evaluation

end Machine

/-- Evaluation never panics. For every grammar, with whatever bounds on items, and
for every text and all limits, a machine has the result that is told of the plain
run: every piece of text is cut out between boundaries, no counter wraps around,
no more items are counted than the text has bytes, and at every step no more typed
leaves are open than evaluations, and no more of these than the limit allows. -/
theorem evaluation_never_panics {σ : Type} (g : Grammar) (skip : Option CharSet)
    (fuel depth : UInt32) (requireEnd : Bool) (text : List Char) (tracer : Tracer σ) (init : σ) :
    let mc := g.machine skip fuel depth text tracer
    let run := mc.evaluate requireEnd g.root init
    let settings : Settings := ⟨skip, ⟨fuel.toNat, depth.toNat⟩, requireEnd⟩
    let plain := g.evaluateWith settings text tracer init
    mc.InBounds (mc.startRegisters init) ∧ (∀ p, run.1 ≠ .error (.panic p)) ∧
      run = (plain.1.mapError Stop.error, plain.2) := by
  intro mc run settings plain
  have hstart := Machine.start_holds g skip fuel depth requireEnd text tracer init
  have hmirrors := Machine.run_mirrors requireEnd g.root hstart
  have hplain : plain = report (Engine.run ⟨g.rules, settings.limits, tracer⟩ requireEnd g.root
      (Grammar.startState settings text init)) := Grammar.evaluateWith_eq_report tracer init
  have hrun : run = (plain.1.mapError Stop.error, plain.2) := by
    rw [hplain]
    exact hmirrors.report_eq
  refine ⟨hstart.inBounds, ?_, hrun⟩
  intro p
  rw [hrun]
  cases plain.1 with
  | ok result => nofun
  | error e => nofun

end Peg
