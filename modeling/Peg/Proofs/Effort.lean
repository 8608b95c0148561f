import Peg.Proofs.Balance
import Peg.Proofs.Beside
import Peg.Proofs.Limits

/-!
What an evaluation comes to does not depend on its effort.

The same element is evaluated in two runs, which stand at the same place but
have different fuel left and are nested to different depths. As long as no
limit ends one of them, they come to the same. So a run may open or close an
evaluation on its own, which changes nothing but its effort.
-/
namespace Peg

open Eval

variable {σ : Type}

/-- The end of a sequence that started with `start`. It gives its mark back,
and goes back to where it started if a child did not match. -/
def Engine.conclude (en : Engine σ) (start : Scanner) (r : Option (List Value)) :
    Eval σ (Option Contribution) := do
  modify fun s => { s with scanner := { s.scanner with marks := start.marks } }
  match r with
  | some items => return some (.one (.list items))
  | none =>
    Eval.rewind en.tracer start.cursor
    return none

/-- A sequence is its children and a conclusion: behind the children it finds
the mark that it put on the stack before them. -/
theorem sequence_eq (en : Engine σ) (room : Nat) (children : List Element) (s : State σ) :
    en.sequence (en.eval room) children s =
      (Engine.allOf (en.eval room) [] children >>= en.conclude s.scanner)
        { s with scanner := s.scanner.pushMark } := by
  unfold Engine.sequence
  refine bind_congr (m := Engine.allOf (en.eval room) [] children)
    (s := { s with scanner := s.scanner.pushMark }) rfl ?_
  intro r t ht
  obtain ⟨n, hkept⟩ := allOf_kept ht
  have hmarks : t.scanner.marks = s.scanner.cursor :: s.scanner.marks := hkept.marks
  have hget : (get : Eval σ _) t = .ok t t := rfl
  cases r with
  | some items =>
    dsimp only
    rw [bind_of_ok hget, BigStep.popMark_of_marks hmarks]
    rfl
  | none =>
    have hcursor : Eval.cursor t = .ok t.scanner.cursor t := rfl
    dsimp only
    rw [bind_of_ok hcursor, bind_of_ok hget, BigStep.back_of_marks hmarks]
    rfl

/-- Peers convert the same text. -/
theorem Peer.leafText_eq {s t : State σ} (hst : Peer s t) {mark : Cursor} (out : Contribution) :
    Engine.leafText t.scanner mark out = Engine.leafText s.scanner mark out := by
  unfold Engine.leafText Engine.matchedText Scanner.since
  rw [hst.cursor, hst.skip]

/-- The two rooms make no difference to what an element comes to. -/
def Steady (en : Engine σ) (room room' : Nat) : Prop :=
  ∀ e s t, Peer s t → Beside Eq (en.eval room e) s (en.eval room' e) t

section Composite

variable {en : Engine σ} {room room' : Nat} (hsub : Steady en room room') {s t : State σ}

theorem conclude_beside {start start' : Scanner} (hstart : start'.cursor = start.cursor)
    (hst : Peer s t) (r : Option (List Value)) :
    Beside Eq (en.conclude start r) s (en.conclude start' r) t := by
  have hunmarked : Peer { s with scanner := { s.scanner with marks := start.marks } }
      { t with scanner := { t.scanner with marks := start'.marks } } := { hst with }
  unfold Engine.conclude
  rw [hstart]
  apply (Beside.update hunmarked).bind
  intro _ _ u v _ huv
  cases r with
  | some items => exact Beside.pure rfl huv
  | none =>
    apply (Beside.rewind huv.toApart en.tracer start.cursor).bind
    intro _ _ u v _ huv
    exact Beside.pure rfl huv

theorem enough_beside (hst : Peer s t) (start : Cursor) (min : Nat) (p : Nat × List Value) :
    Beside Eq (en.enough start min p) s (en.enough start min p) t := by
  unfold Engine.enough
  split
  · apply (Beside.rewind hst.toApart en.tracer start).bind
    intro _ _ u v _ huv
    exact Beside.pure rfl huv
  · exact Beside.pure rfl hst

include hsub

theorem allOf_beside (hst : Peer s t) (children : List Element) (items : List Value) :
    Beside Eq (Engine.allOf (en.eval room) items children) s
      (Engine.allOf (en.eval room') items children) t := by
  induction children generalizing items s t with
  | nil => exact Beside.pure rfl hst
  | cons e rest ih =>
    apply (hsub e s t hst).bind
    rintro r _ u v rfl huv
    cases r with
    | none => exact Beside.pure rfl huv
    | some out => exact ih huv _

theorem sequence_beside (hst : Peer s t) (children : List Element) :
    Beside Eq (en.sequence (en.eval room) children) s
      (en.sequence (en.eval room') children) t := by
  have hpushed : Peer { s with scanner := s.scanner.pushMark }
      { t with scanner := t.scanner.pushMark } := { hst with }
  unfold Beside
  rw [sequence_eq, sequence_eq]
  apply (allOf_beside hsub hpushed children []).bind
  rintro r _ u v rfl huv
  exact conclude_beside hst.cursor huv r

theorem firstOf_beside (hst : Peer s t) (children : List Element) :
    Beside Eq (Engine.firstOf (en.eval room) children) s
      (Engine.firstOf (en.eval room') children) t := by
  induction children generalizing s t with
  | nil => exact Beside.pure rfl hst
  | cons e rest ih =>
    apply (hsub e s t hst).bind
    rintro r _ u v rfl huv
    cases r with
    | none => exact ih huv
    | some out => exact Beside.pure rfl huv

theorem rounds_beside (hst : Peer s t) (child : Element) (most : Option Nat)
    (bound count : Nat) (items : List Value) :
    Beside Eq (Engine.rounds (en.eval room) child most bound count items) s
      (Engine.rounds (en.eval room') child most bound count items) t := by
  induction bound generalizing count items s t with
  | zero => exact Beside.pure rfl hst
  | succ bound ih =>
    unfold Engine.rounds
    split
    · apply (Beside.cursor hst).bind
      rintro mark _ u v rfl huv
      apply (hsub child u v huv).bind
      rintro r _ u v rfl huv
      cases r with
      | none => exact Beside.pure rfl huv
      | some out =>
        apply (Beside.cursor huv).bind
        rintro stop _ u v rfl huv
        split
        · exact ih huv _ _
        · apply (Beside.reset huv mark).bind
          intro _ _ u v _ huv
          exact Beside.pure rfl huv
    · exact Beside.pure rfl hst

/-- Both runs have fuel for all rounds, as every round takes some. -/
theorem repetition_beside (hst : Peer s t) (child : Element) (min : Nat) (most : Option Nat) :
    Beside Eq (en.repetition (en.eval room) child min most) s
      (en.repetition (en.eval room') child min most) t := by
  have hs : s.fuel < s.fuel + t.fuel + 1 := by omega
  have ht : t.fuel < s.fuel + t.fuel + 1 := by omega
  unfold Beside
  rw [repetition_eq en (eval_spends en room) child min most _ s hs,
    repetition_eq en (eval_spends en room') child min most _ t ht]
  apply (Beside.cursor hst).bind
  rintro start _ u v rfl huv
  apply (rounds_beside hsub huv child most _ 0 []).bind
  rintro p _ u v rfl huv
  exact enough_beside huv start min p

theorem moreItems_beside (hst : Peer s t) (item separator : Element) (most : Option Nat)
    (bound count : Nat) (items : List Value) :
    Beside Eq (en.moreItems (en.eval room) item separator most bound count items) s
      (en.moreItems (en.eval room') item separator most bound count items) t := by
  induction bound generalizing count items s t with
  | zero => exact Beside.pure rfl hst
  | succ bound ih =>
    have hback : ∀ {u v : State σ} (mark : Cursor), Peer u v →
        Beside Eq (do rewind en.tracer mark; return (count, items)) u
          (do rewind en.tracer mark; return (count, items)) v := by
      intro u v mark huv
      apply (Beside.rewind huv.toApart en.tracer mark).bind
      intro _ _ u v _ huv
      exact Beside.pure rfl huv
    unfold Engine.moreItems
    split
    · apply (Beside.cursor hst).bind
      rintro mark _ u v rfl huv
      apply (hsub separator u v huv).bind
      rintro r _ u v rfl huv
      cases r with
      | none => exact Beside.pure rfl huv
      | some sep =>
        apply (hsub item u v huv).bind
        rintro r _ u v rfl huv
        cases r with
        | none => exact hback mark huv
        | some out =>
          apply (Beside.cursor huv).bind
          rintro stop _ u v rfl huv
          split
          · exact ih huv _ _
          · exact hback mark huv
    · exact Beside.pure rfl hst

theorem firstItem_beside (hst : Peer s t) (item : Element) (most : Option Nat) :
    Beside Eq (Engine.firstItem (en.eval room) item most) s
      (Engine.firstItem (en.eval room') item most) t := by
  unfold Engine.firstItem
  split
  · exact Beside.pure rfl hst
  · apply (Beside.cursor hst).bind
    rintro mark _ u v rfl huv
    apply (hsub item u v huv).bind
    rintro r _ u v rfl huv
    cases r with
    | none => exact Beside.pure rfl huv
    | some out =>
      apply (Beside.cursor huv).bind
      rintro stop _ u v rfl huv
      split
      · exact Beside.pure rfl huv
      · apply (Beside.reset huv mark).bind
        intro _ _ u v _ huv
        exact Beside.pure rfl huv

theorem separated_beside (hst : Peer s t) (item separator : Element) (min : Nat)
    (most : Option Nat) :
    Beside Eq (en.separated (en.eval room) item separator min most) s
      (en.separated (en.eval room') item separator min most) t := by
  have hs : s.fuel < s.fuel + t.fuel + 1 := by omega
  have ht : t.fuel < s.fuel + t.fuel + 1 := by omega
  unfold Beside
  rw [separated_eq en (eval_spends en room) item separator min most _ s hs,
    separated_eq en (eval_spends en room') item separator min most _ t ht]
  apply (Beside.cursor hst).bind
  rintro start _ u v rfl huv
  apply (firstItem_beside hsub huv item most).bind
  rintro ⟨count, items⟩ _ u v rfl huv
  dsimp only
  split
  · exact enough_beside huv start min _
  · apply (moreItems_beside hsub huv item separator most _ count items).bind
    rintro p _ u v rfl huv
    exact enough_beside huv start min p

end Composite

section Leaf

variable {s t : State σ} (hst : Peer s t) (e : Element)

include hst

theorem literal_beside (text : String) :
    Beside Eq (Engine.literal e text) s (Engine.literal e text) t := by
  apply Beside.look
  unfold Scanner.scanLiteral?
  rw [hst.skippedCursor]
  dsimp only
  cases Scanner.dropWord? text.toList s.scanner.skippedCursor.after with
  | some rest =>
    apply (Beside.update (hst.moved _ _ _ _ _)).bind
    intro _ _ u v _ huv
    exact Beside.pure rfl huv
  | none =>
    apply (Beside.record hst _ _).bind
    intro _ _ u v _ huv
    exact Beside.pure rfl huv

theorem pattern_beside (regex : Regex) (capture : Capture) :
    Beside Eq (Engine.pattern e regex capture) s (Engine.pattern e regex capture) t := by
  apply Beside.look
  unfold Scanner.scanRegex?
  rw [hst.skippedCursor]
  cases regex.matchFrom s.scanner.skippedCursor with
  | some m =>
    apply (Beside.update (hst.moved _ _ _ _ _)).bind
    intro _ _ u v _ huv
    exact Beside.pure rfl huv
  | none =>
    apply (Beside.record hst _ _).bind
    intro _ _ u v _ huv
    exact Beside.pure rfl huv

theorem endOfInput_beside : Beside Eq (Engine.endOfInput e) s (Engine.endOfInput e) t := by
  have hplace : t.scanner.skipNow.cursor = s.scanner.skipNow.cursor := hst.skippedCursor
  apply Beside.look
  dsimp only
  rw [hst.atEnd_skipNow, hplace]
  split
  · apply (Beside.update hst.skipNow).bind
    intro _ _ u v _ huv
    exact Beside.pure rfl huv
  · apply (Beside.record hst _ _).bind
    intro _ _ u v _ huv
    exact Beside.pure rfl huv

end Leaf

section Kind

variable {en : Engine σ} {room room' : Nat} (hsub : Steady en room room') {s t : State σ}

include hsub

theorem convert_beside (hst : Peer s t) (e child : Element) (f : String → Option Value) :
    Beside Eq (Engine.convert (en.eval room) e child f) s
      (Engine.convert (en.eval room') e child f) t := by
  unfold Engine.convert
  apply (Beside.cursor hst).bind
  rintro mark _ u v rfl huv
  apply (Beside.quieten huv (· + 1)).bind
  intro _ _ u v _ huv
  apply (hsub child u v huv).bind
  rintro r _ u v rfl huv
  apply (Beside.quieten huv (· - 1)).bind
  intro _ _ u v _ huv
  apply Beside.look
  have htext : Engine.leafText v.scanner mark = Engine.leafText u.scanner mark :=
    funext huv.leafText_eq
  rw [htext]
  cases r.bind fun out => f (Engine.leafText u.scanner mark out) with
  | some v => exact Beside.pure rfl huv
  | none =>
    apply (Beside.reset huv mark).bind
    intro _ _ u v _ huv
    apply (Beside.skippedCursor huv).bind
    rintro place _ u v rfl huv
    apply (Beside.record huv place _).bind
    intro _ _ u v _ huv
    exact Beside.pure rfl huv

theorem backref_beside (hst : Peer s t) (name : String) (target : Nat) :
    Beside Eq (en.backref (en.eval room) name target) s
      (en.backref (en.eval room') name target) t := by
  unfold Engine.backref
  cases en.rules.lookup target with
  | some e => exact hsub e s t hst
  | none => exact Beside.throw _ hst

theorem evalKind_beside (hst : Peer s t) (e : Element) :
    Beside Eq (en.evalKind (en.eval room) e) s (en.evalKind (en.eval room') e) t := by
  unfold Engine.evalKind
  cases e.kind with
  | literal text => exact literal_beside hst e text
  | pattern regex capture => exact pattern_beside hst e regex capture
  | sequence children => exact sequence_beside hsub hst children
  | alternation children => exact firstOf_beside hsub hst children
  | repetition child min max => exact repetition_beside hsub hst child min max
  | separated item separator min max => exact separated_beside hsub hst item separator min max
  | convert child name f => exact convert_beside hsub hst e child f
  | endOfInput => exact endOfInput_beside hst e
  | rule key name body => exact hsub body s t hst
  | backref name target => exact backref_beside hsub hst name target

end Kind

section Opening

variable {α β : Type} {en : Engine σ} {e : Element} {room : Nat} {s t : State σ}
  {Q : α → β → Prop}

theorem Peer.opened (s : State σ) (tracer : Tracer σ) (e : Element) :
    Peer s (s.opened tracer e) :=
  ⟨⟨rfl, rfl, rfl, rfl⟩, rfl⟩

/-- The end of an evaluation decorates what the kind came to, and moves nothing. -/
theorem close_leads {entry : Cursor} {r : Option Contribution}
    {post : Option Contribution → State σ → Prop} {fault : ParseError → State σ → Prop}
    (h : ∀ u, Peer s u → post (r.map (·.decorate e.decor)) u) :
    Leads (en.close e entry r) s post fault := by
  cases r with
  | some out =>
    unfold Engine.close
    rw [leads_bind]
    exact leads_succeed fun trace => h _ ⟨⟨rfl, rfl, rfl, rfl⟩, rfl⟩
  | none =>
    unfold Engine.close
    rw [leads_bind]
    exact leads_fail fun trace => h _ ⟨⟨rfl, rfl, rfl, rfl⟩, rfl⟩

/-- Where two steps come to the same, what follows them does. -/
theorem bind_of_eq {m m' : Eval σ α} {k : α → Eval σ β} (h : m s = m' t) :
    (m >>= k) s = (m' >>= k) t := by
  change EStateM.bind m k s = EStateM.bind m' k t
  unfold EStateM.bind
  rw [h]

/-- The first run opens an evaluation on its own, unless its limits end it. -/
theorem Beside.opened_left {k : Option Contribution → Eval σ α} {m' : Eval σ β}
    (h : ∀ below, room = below + 1 →
      Beside Q (en.evalKind (en.eval below) e >>= fun r => en.close e s.scanner.cursor r >>= k)
        (s.opened en.tracer e) m' t) :
    Beside Q (en.eval room e >>= k) s m' t := by
  unfold Beside at h ⊢
  by_cases hs : s.fuel = 0
  · rw [bind_of_error (eval_of_empty en e room hs)]
    exact Consistent.limited ⟨_, Or.inl rfl⟩
  cases room with
  | zero =>
    rw [bind_of_error (eval_of_full en e hs)]
    exact Consistent.limited ⟨_, Or.inr rfl⟩
  | succ below =>
    rw [bind_of_eq (eval_of_fuel en e below hs), bind_assoc]
    exact h below rfl

/-- What it opens is a peer of where it was. -/
theorem Beside.open_left {k : Option Contribution → Eval σ α} {m' : Eval σ β}
    (h : ∀ below u, room = below + 1 → Peer s u →
      Beside Q (en.evalKind (en.eval below) e >>= fun r =>
        en.close e s.scanner.cursor r >>= k) u m' t) :
    Beside Q (en.eval room e >>= k) s m' t := by
  apply Beside.opened_left
  intro below hroom
  exact h below _ hroom (Peer.opened s en.tracer e)

/-- The second run opens an evaluation on its own, unless its limits end it. -/
theorem Beside.open_right {m : Eval σ α} {k : Option Contribution → Eval σ β}
    (h : ∀ below u, room = below + 1 → Peer t u →
      Beside Q m s (en.evalKind (en.eval below) e >>= fun r =>
        en.close e t.scanner.cursor r >>= k) u) :
    Beside Q m s (en.eval room e >>= k) t := by
  apply Beside.swap
  apply Beside.open_left
  intro below u hroom htu
  exact (h below u hroom htu).swap

/-- Both runs end an evaluation, each on its own. -/
theorem Beside.close {e' : Element} {entry entry' : Cursor} {r r' : Option Contribution}
    {k : Option Contribution → Eval σ α} {k' : Option Contribution → Eval σ β}
    (h : ∀ u v, Peer s u → Peer t v →
      Beside Q (k (r.map (·.decorate e.decor))) u (k' (r'.map (·.decorate e'.decor))) v) :
    Beside Q (en.close e entry r >>= k) s (en.close e' entry' r' >>= k') t := by
  apply Beside.left
  apply close_leads
  intro u hsu
  apply Beside.right
  apply close_leads
  intro v htv
  exact h u v hsu htv

/-- Elements come to the same if their kinds do and they are decorated alike. -/
theorem Beside.of_evalKind {e e' : Element} {room room' : Nat} (hst : Peer s t)
    (hdecor : e'.decor = e.decor)
    (hkind : ∀ below below' u v, room = below + 1 → Peer u v →
      Beside Eq (en.evalKind (en.eval below) e) u (en.evalKind (en.eval below') e') v) :
    Beside Eq (en.eval room e) s (en.eval room' e') t := by
  rw [← bind_pure (en.eval room e), ← bind_pure (en.eval room' e')]
  apply Beside.open_left
  intro below u hroom hsu
  apply Beside.open_right
  intro below' v _ htv
  apply (hkind below below' u v hroom (hsu.symm.trans (hst.trans htv))).bind
  rintro r _ u v rfl huv
  apply Beside.close
  intro u' v' huu' hvv'
  rw [hdecor]
  exact Beside.pure rfl (huu'.symm.trans (huv.trans hvv'))

end Opening

/-- What an element comes to depends neither on the fuel nor on the depth. -/
theorem eval_beside (en : Engine σ) (room room' : Nat) : Steady en room room' := by
  -- Each evaluation takes a level of the first run; the second may run out of its own.
  induction room generalizing room' with
  | zero =>
    intro e s t hst
    apply Beside.of_evalKind hst rfl
    intro below _ _ _ hroom _
    cases hroom
  | succ room ih =>
    intro e s t hst
    apply Beside.of_evalKind hst rfl
    intro below below' u v hroom huv
    cases hroom
    exact evalKind_beside (ih below') huv e

/-- The end of an evaluation of a sequence that started with `start`. -/
def Engine.leave (en : Engine σ) (e : Element) (start : Scanner) (r : Option (List Value)) :
    Eval σ (Option Contribution) :=
  en.conclude start r >>= en.close e start.cursor

section Leaving

variable {en : Engine σ} {e : Element} {start : Scanner} {s : State σ}
  {post : Option Contribution → State σ → Prop} {fault : ParseError → State σ → Prop}

theorem leave_some_leads {items : List Value}
    (h : ∀ u, Peer s u → post (some ((Contribution.one (.list items)).decorate e.decor)) u) :
    Leads (en.leave e start (some items)) s post fault := by
  -- The mark stack does not count for peers.
  have hunmarked : Peer s { s with scanner := { s.scanner with marks := start.marks } } :=
    ⟨⟨rfl, rfl, rfl, rfl⟩, rfl⟩
  unfold Engine.leave Engine.conclude
  rw [bind_assoc, leads_bind, leads_modify, pure_bind]
  apply close_leads
  intro u hu
  exact h u (hunmarked.trans hu)

/-- A sequence that fails goes back to where it started, wherever it got to. -/
theorem leave_none_leads (h : ∀ u, Apart s u → u.scanner.cursor = start.cursor → post none u) :
    Leads (en.leave e start none) s post fault := by
  unfold Engine.leave Engine.conclude
  rw [bind_assoc, leads_bind, leads_modify, bind_assoc, leads_bind]
  apply leads_rewind
  intro trace
  rw [pure_bind]
  apply close_leads
  intro u hu
  have hback : Apart s u := ⟨hu.skip, hu.suppressed, hu.quiet, hu.furthest⟩
  exact h u hback hu.cursor

variable {α β : Type} {e' : Element} {start' : Scanner} {t : State σ} {Q : α → β → Prop}
  {k : Option Contribution → Eval σ α} {k' : Option Contribution → Eval σ β}

/-- Two sequences that fail get together where they started. -/
theorem Beside.leave_none (hst : Apart s t) (hstart : start'.cursor = start.cursor)
    (h : ∀ u v, Peer u v → Beside Q (k none) u (k' none) v) :
    Beside Q (en.leave e start none >>= k) s (en.leave e' start' none >>= k') t := by
  apply Beside.left
  apply leave_none_leads
  intro u hsu hu
  apply Beside.right
  apply leave_none_leads
  intro v htv hv
  exact h u v ⟨hsu.symm.trans (hst.trans htv), hv.trans (hstart.trans hu.symm)⟩

theorem Beside.leave_some (hst : Peer s t) {items items' : List Value}
    (h : ∀ u v, Peer u v →
      Beside Q (k (some ((Contribution.one (.list items)).decorate e.decor))) u
        (k' (some ((Contribution.one (.list items')).decorate e'.decor))) v) :
    Beside Q (en.leave e start (some items) >>= k) s (en.leave e' start' (some items') >>= k') t := by
  apply Beside.left
  apply leave_some_leads
  intro u hsu
  apply Beside.right
  apply leave_some_leads
  intro v htv
  exact h u v (hsu.symm.trans (hst.trans htv))

theorem Beside.leave (hst : Peer s t) (hstart : start'.cursor = start.cursor)
    (r : Option (List Value))
    (h : ∀ u v, Peer u v →
      Beside Q (k (r.map fun items => (Contribution.one (.list items)).decorate e.decor)) u
        (k' (r.map fun items => (Contribution.one (.list items)).decorate e'.decor)) v) :
    Beside Q (en.leave e start r >>= k) s (en.leave e' start' r >>= k') t := by
  cases r with
  | none => exact Beside.leave_none hst.toApart hstart h
  | some items => exact Beside.leave_some hst h

end Leaving

section OpenSequence

variable {α β : Type} {en : Engine σ} {room : Nat} {d : Decor} {children : List Element}
  {s t : State σ} {Q : α → β → Prop}

/-- The first run opens a sequence on its own. -/
theorem Beside.open_sequence_left {k : Option Contribution → Eval σ α} {m' : Eval σ β}
    (h : ∀ below u, Peer s u → Beside Q (Engine.allOf (en.eval below) [] children >>= fun r =>
      en.leave (.node d (.sequence children)) s.scanner r >>= k) u m' t) :
    Beside Q (en.eval room (.node d (.sequence children)) >>= k) s m' t := by
  apply Beside.opened_left
  intro below _
  -- The mark is put on the stack as soon as the sequence is open.
  let e : Element := .node d (.sequence children)
  let u : State σ := { s.opened en.tracer e with scanner := s.scanner.pushMark }
  have hu : Peer s u := ⟨⟨rfl, rfl, rfl, rfl⟩, rfl⟩
  have hleave := h below u hu
  unfold Engine.leave at hleave
  simp only [bind_assoc] at hleave
  change Beside Q (en.sequence (en.eval below) children >>= _) (s.opened en.tracer e) m' t
  unfold Beside
  rw [bind_of_eq (sequence_eq en below children _), bind_assoc]
  exact hleave

/-- The second run opens a sequence on its own. -/
theorem Beside.open_sequence_right {m : Eval σ α} {k : Option Contribution → Eval σ β}
    (h : ∀ below u, Peer t u → Beside Q m s (Engine.allOf (en.eval below) [] children >>= fun r =>
      en.leave (.node d (.sequence children)) t.scanner r >>= k) u) :
    Beside Q m s (en.eval room (.node d (.sequence children)) >>= k) t := by
  apply Beside.swap
  apply Beside.open_sequence_left
  intro below u htu
  exact (h below u htu).swap

end OpenSequence

section Answer

variable {s t : State σ}

/-- Without a match it does not matter where the runs are. -/
theorem noMatch_beside {α β : Type} {Q : α → β → Prop} (hst : Apart s t) :
    Beside Q Engine.noMatch s Engine.noMatch t := by
  apply Beside.look
  rw [hst.furthest]
  exact Consistent.error hst.furthest

theorem demandEnd_beside (hst : Peer s t) :
    Beside Eq Engine.demandEnd s Engine.demandEnd t := by
  have hplace : t.scanner.skipNow.cursor = s.scanner.skipNow.cursor := hst.skippedCursor
  apply Beside.look
  dsimp only
  rw [hst.atEnd_skipNow, hplace]
  apply (Beside.update hst.skipNow).bind
  intro _ _ u v _ huv
  split
  · exact Beside.pure rfl huv
  · apply (Beside.record huv _ _).bind
    intro _ _ u v _ huv
    exact noMatch_beside huv.toApart

/-- The end of a run: its value, and where its match ends. -/
def Engine.answer (requireEnd unwrap : Bool) :
    Option Contribution → Eval σ (Value × Nat)
  | none => noMatch
  | some out => do
    let stop ← Eval.cursor
    if requireEnd then demandEnd
    return (out.toValue unwrap, stop.offset)

theorem run_eq (en : Engine σ) (requireEnd : Bool) (root : Element) :
    en.run requireEnd root =
      en.eval en.limits.depth root >>= Engine.answer requireEnd root.kind.isSequence :=
  rfl

/-- Two runs that came to the same so far end alike, up to what the values of
their contributions are. -/
theorem answer_beside {Q : Value → Value → Prop} (requireEnd : Bool) {unwrap unwrap' : Bool}
    {r r' : Option Contribution}
    (hr : Option.Rel (fun out out' => Q (out.toValue unwrap) (out'.toValue unwrap')) r r')
    (hst : Peer s t) :
    Beside (fun p q => Q p.1 q.1 ∧ p.2 = q.2) (Engine.answer requireEnd unwrap r) s
      (Engine.answer requireEnd unwrap' r') t := by
  cases hr with
  | none => exact noMatch_beside hst.toApart
  | some hvalue =>
    unfold Engine.answer
    apply (Beside.cursor hst).bind
    rintro stop _ u v rfl huv
    cases requireEnd with
    | false => exact Beside.pure ⟨hvalue, rfl⟩ huv
    | true =>
      apply (demandEnd_beside huv).bind
      intro _ _ u v _ huv
      exact Beside.pure ⟨hvalue, rfl⟩ huv

end Answer

namespace Grammar

/-- The run of a grammar is not ended by a limit. -/
def WithinLimits (g : Grammar) (settings : Settings) (text : List Char) : Prop :=
  ∀ e, g.evaluatePrefix settings text = .error e → ¬ e.IsLimit

theorem WithinLimits.of_isOk {g : Grammar} {settings : Settings} {text : List Char}
    (h : (g.evaluatePrefix settings text).isOk = true) : g.WithinLimits settings text := by
  intro e he
  rw [he] at h
  cases h

/-- What is told of two runs within their limits, one beside the other: results
alike, or the same error. -/
theorem map_evaluatePrefix_eq {γ : Type} {g g' : Grammar} {settings settings' : Settings}
    {text : List Char} (f f' : Value × Nat → γ)
    (hruns : Beside (fun p q => f p = f' q)
      (Engine.run ⟨g.rules, settings.limits, .silent⟩ settings.requireEnd g.root)
      (startState settings text ())
      (Engine.run ⟨g'.rules, settings'.limits, .silent⟩ settings'.requireEnd g'.root)
      (startState settings' text ()))
    (hg : g.WithinLimits settings text) (hg' : g'.WithinLimits settings' text) :
    (g.evaluatePrefix settings text).map f = (g'.evaluatePrefix settings' text).map f' := by
  unfold WithinLimits at hg hg'
  unfold evaluatePrefix at hg hg' ⊢
  rw [evaluateWith_eq_report] at hg hg' ⊢
  rw [evaluateWith_eq_report]
  unfold Beside at hruns
  generalize Engine.run ⟨g.rules, settings.limits, .silent⟩ settings.requireEnd g.root
    (startState settings text ()) = r at hg hruns ⊢
  generalize Engine.run ⟨g'.rules, settings'.limits, .silent⟩ settings'.requireEnd g'.root
    (startState settings' text ()) = r' at hg' hruns ⊢
  cases hruns with
  | ok related _ => exact congrArg Except.ok related
  | error _ => rfl
  | limited limit => exact absurd limit (hg _ rfl)
  | limited' limit => exact absurd limit (hg' _ rfl)

/-- Roots that come to the same have the same results. -/
theorem evaluatePrefix_eq {root root' : Element} {rules : RuleTable} {settings : Settings}
    {text : List Char} (hsequence : root'.kind.isSequence = root.kind.isSequence)
    (hroot : ∀ (en : Engine Unit) room s t, Peer s t →
      Beside Eq (en.eval room root) s (en.eval room root') t)
    (h : WithinLimits ⟨root, rules⟩ settings text)
    (h' : WithinLimits ⟨root', rules⟩ settings text) :
    evaluatePrefix ⟨root, rules⟩ settings text = evaluatePrefix ⟨root', rules⟩ settings text := by
  have hruns : Beside Eq
      (Engine.run ⟨rules, settings.limits, .silent⟩ settings.requireEnd root)
      (startState settings text ())
      (Engine.run ⟨rules, settings.limits, .silent⟩ settings.requireEnd root')
      (startState settings text ()) := by
    rw [run_eq, run_eq]
    apply (hroot _ _ _ _ (Peer.refl _)).bind
    rintro r _ u v rfl huv
    rw [hsequence]
    have hr : Option.Rel (fun out out' : Contribution =>
        out.toValue root.kind.isSequence = out'.toValue root.kind.isSequence) r r := by
      cases r with
      | none => exact .none
      | some out => exact .some rfl
    apply (answer_beside settings.requireEnd hr huv).imp
    intro p q hpq
    exact Prod.ext hpq.1 hpq.2
  have hmap : (evaluatePrefix ⟨root, rules⟩ settings text).map id =
      (evaluatePrefix ⟨root', rules⟩ settings text).map id :=
    map_evaluatePrefix_eq id id hruns h h'
  rwa [Except.map_id] at hmap

end Grammar

end Peg
