import Peg.Proofs.Completeness
import Peg.Proofs.Extension

/-!
Separated lists and what they stand for.

A separated list with at least one item is a sequence: the first item, and a
repetition of separators with an item behind each. The list counts its items
and the repetition what comes behind the first one, so their bounds differ by
one. Both loops take their rounds together.
-/
namespace Peg

open Eval BigStep

variable {σ : Type}

namespace Element

/-- A separator and the item behind it, one by one. -/
def nextItem (separator item : Element) : Element :=
  (sequence [separator, item]).flatten

/-- The items behind the first one of a list with bounds on all its items. -/
def laterItems (separator item : Element) (min : Nat) (max : Option Nat) : Element :=
  ((separator.nextItem item).repetition (min - 1) (max.map (· - 1))).flatten

/-- A separated list in terms of sequences and a repetition. -/
def expandedList (separator item : Element) (min : Nat) (max : Option Nat) : Element :=
  sequence [item, separator.laterItems item min max]

end Element

theorem belowMax_pred {most : Option Nat} (hmost : most ≠ some 0) (count : Nat) :
    belowMax (most.map (· - 1)) count = belowMax most (count + 1) := by
  cases most with
  | none => rfl
  | some m =>
    have hm : m ≠ 0 := fun h => hmost (congrArg some h)
    have hiff : count < m - 1 ↔ count + 1 < m := by omega
    exact decide_eq_decide.mpr hiff

/-- An element that does not match stays where it is. -/
theorem eval_back {en : Engine σ} {room : Nat} {e : Element} {s t : State σ}
    (h : en.eval room e s = .ok none t) : t.scanner.cursor = s.scanner.cursor := by
  have hfollows := eval_follows (k := contextOf en.rules s) en rfl room e s rfl
  exact (hfollows.of_ok h).1 rfl

/-- A match is also found by a peer that has as much fuel. -/
theorem eval_of_peer {en : Engine σ} {room : Nat} {e : Element} {s u t : State σ}
    {out : Contribution} (hsu : Peer s u) (hfuel : u.fuel ≤ s.fuel)
    (h : en.eval room e u = .ok (some out) t) :
    ∃ t', en.eval room e s = .ok (some out) t' ∧ t'.scanner.cursor = t.scanner.cursor := by
  have hcontext : contextOf en.rules u = contextOf en.rules s := by
    unfold contextOf
    rw [hsu.skip, hsu.suppressed]
  have hfollows := eval_follows (k := contextOf en.rules s) en rfl room e u hcontext
  obtain ⟨-, n, height, hkept, hheight, hyields⟩ := hfollows.of_ok h
  have hready : Ready (contextOf en.rules s) u.scanner.cursor n s := by
    refine ⟨rfl, hsu.cursor.symm, ?_⟩
    have := hkept.fuel
    omega
  have hruns := (hyields.carried en rfl room hheight).2 s hready
  obtain ⟨r, t', hrun, hreaches⟩ := hruns.exists_ok
  obtain ⟨-, rfl, hcursor⟩ := hreaches.of_some
  exact ⟨t', hrun, hcursor⟩

/-- An item that moves the cursor in one state does so in a peer with less fuel. -/
theorem moves_of_peer {en : Engine σ} {room : Nat} {item : Element} {s u t : State σ}
    {out : Contribution} (hsu : Peer s u) (hfuel : u.fuel ≤ s.fuel)
    (hitem : ∀ room out t, en.eval room item s = .ok (some out) t →
      s.scanner.position < t.scanner.position)
    (h : en.eval room item u = .ok (some out) t) :
    u.scanner.cursor.offset < t.scanner.cursor.offset := by
  obtain ⟨t', hfound, hplace⟩ := eval_of_peer hsu hfuel h
  have hmoves : s.scanner.cursor.offset < t'.scanner.cursor.offset := hitem room out t' hfound
  rwa [hplace, ← hsu.cursor] at hmoves

section Beside

variable {en : Engine σ} {room room' : Nat} {s t : State σ} {item separator : Element}
  {most : Option Nat}

section Ending

variable {e e' : Element} {entry : Cursor} {start : Scanner}

/-- An element that failed, beside a sequence that has yet to go back. -/
theorem close_beside_leave_none (hst : Apart s t) (hs : s.scanner.cursor = start.cursor) :
    Beside Eq (en.close e entry none >>= pure) s (en.leave e' start none >>= pure) t := by
  apply Beside.left
  apply close_leads
  intro u hsu
  apply Beside.right
  apply leave_none_leads
  intro v htv hv
  have huv : Apart u v := hsu.toApart.symm.trans (hst.trans htv)
  exact Beside.pure rfl ⟨huv, hv.trans (hs.symm.trans hsu.cursor.symm)⟩

theorem close_beside_leave_some (hst : Peer s t) (hdecor : e'.decor = e.decor)
    (items : List Value) :
    Beside Eq (en.close e entry (some (.one (.list items))) >>= pure) s
      (en.leave e' start (some items) >>= pure) t := by
  apply Beside.left
  apply close_leads
  intro u hsu
  apply Beside.right
  apply leave_some_leads
  intro v htv
  rw [hdecor]
  exact Beside.pure rfl (hsu.symm.trans (hst.trans htv))

end Ending

/-- A separator and an item in the first run, beside both as one element in the
second. Without an item behind the separator only the second run goes back. -/
theorem nextItem_beside {α β : Type} {Q : α → β → Prop} {k : Option Contribution → Eval σ α}
    {l : Contribution → Option Contribution → Eval σ α} {k' : Option Contribution → Eval σ β}
    (hk : ∀ sep, k (some sep) = en.eval room item >>= l sep) (hst : Peer s t)
    (hmiss : ∀ u v, Peer u v → Beside Q (k none) u (k' none) v)
    (hlone : ∀ sep u v, Apart u v → v.scanner.cursor = s.scanner.cursor →
      Beside Q (l sep none) u (k' none) v)
    (hitem : ∀ sep out u v, Peer u v → Beside Q (l sep (some out)) u
      (k' (some (Contribution.one (.list (sep.items ++ out.items))).flatten)) v) :
    Beside Q (en.eval room separator >>= k) s
      (en.eval room' (separator.nextItem item) >>= k') t := by
  apply Beside.open_sequence_right
  intro below v htv
  rw [allOf_cons, bind_assoc]
  apply (eval_beside en room below separator s v (hst.trans htv)).bind_of_ok
  rintro r _ u v hsep _ rfl huv
  cases r with
  | none =>
    -- The separator has not moved, so there is no way to go back.
    have hback : u.scanner.cursor = s.scanner.cursor := eval_back hsep
    dsimp only
    rw [pure_bind]
    apply Beside.right
    apply leave_none_leads
    intro w hvw hw
    exact hmiss u w ⟨huv.toApart.trans hvw, hw.trans (hst.cursor.trans hback.symm)⟩
  | some sep =>
    dsimp only
    rw [hk, allOf_cons, bind_assoc]
    apply (eval_beside en room below item u v huv).bind
    rintro r _ u v rfl huv
    cases r with
    | none =>
      dsimp only
      rw [pure_bind]
      apply Beside.right
      apply leave_none_leads
      intro w hvw hw
      exact hlone sep u w (huv.toApart.trans hvw) (hw.trans hst.cursor)
    | some out =>
      have hitems : (out.items.reverse ++ (sep.items.reverse ++ [])).reverse =
          sep.items ++ out.items := by
        rw [List.append_nil, ← List.reverse_append, List.reverse_reverse]
      change Beside _ _ u (pure (some
        (out.items.reverse ++ (sep.items.reverse ++ [])).reverse) >>= _) v
      rw [pure_bind, hitems]
      apply Beside.right
      apply leave_some_leads
      intro w hvw
      exact hitem sep out u w (huv.trans hvw)

/-- The results of the two loops: the list has its first item besides those that
the repetition has. -/
def OneMore (first : List Value) (p q : Nat × List Value) : Prop :=
  p.1 = q.1 + 1 ∧ p.2 = q.2 ++ first

/-- The loops of a separated list and of the repetition behind its first item. A
separator without an item is given back by the list itself, and by the sequence
that it is in. -/
theorem moreItems_beside_rounds (hmost : most ≠ some 0) (hst : Peer s t) (bound count : Nat)
    (items first : List Value) :
    Beside (OneMore first)
      (en.moreItems (en.eval room) item separator most bound (count + 1) (items ++ first)) s
      (Engine.rounds (en.eval room') (separator.nextItem item) (most.map (· - 1)) bound count
        items) t := by
  induction bound generalizing count items s t with
  | zero => exact Beside.pure ⟨rfl, rfl⟩ hst
  | succ bound ih =>
    have hdone : OneMore first (count + 1, items ++ first) (count, items) := ⟨rfl, rfl⟩
    unfold Engine.moreItems Engine.rounds
    rw [belowMax_pred hmost]
    split
    · apply Beside.left
      rw [leads_cursor]
      apply Beside.right
      rw [leads_cursor, hst.cursor]
      refine nextItem_beside (fun sep => rfl) hst ?_ ?_ ?_
      · intro u v huv
        exact Beside.pure hdone huv
      · intro sep u v huv hv
        apply Beside.left
        apply leads_rewind
        intro trace
        exact Beside.pure hdone ⟨{ huv with }, hv⟩
      · intro sep out u v huv
        apply (Beside.cursor huv).bind
        rintro stop _ u v rfl huv
        -- Both guards look at the place before the separator.
        split
        · have hitems : out.items.reverse ++ (sep.items.reverse ++ (items ++ first)) =
              (sep.items ++ out.items).reverse ++ items ++ first := by
            simp only [List.reverse_append, List.append_assoc]
          rw [Contribution.items_flatten, hitems]
          exact ih huv (count + 1) _
        · apply Beside.left
          apply leads_rewind
          intro trace
          apply Beside.right
          rw [leads_reset]
          exact Beside.pure hdone (huv.toApart.moved _ _ _ _ _)
    · exact Beside.pure hdone hst

/-- A list that has its first item, beside the repetition behind this item. The
rounds of both are bounded by the fuel that is left, so they may as well have
the same bound. -/
theorem moreItems_beside_laterItems (hmost : most ≠ some 0) {min : Nat} (hmin : 1 ≤ min)
    (hst : Peer s t) {α β : Type} {Q : α → β → Prop} {k : Option Contribution → Eval σ α}
    {k' : Option Contribution → Eval σ β} {start : Cursor} {bound : Nat} {first : List Value}
    (hbound : s.fuel < bound)
    (hnone : ∀ u v, Apart u v → u.scanner.cursor = start → Beside Q (k none) u (k' none) v)
    (hsome : ∀ items u v, Peer u v →
      Beside Q (k (some (.one (.list (first.reverse ++ items))))) u
        (k' (some ((Contribution.one (.list items)).flatten))) v) :
    Beside Q (en.moreItems (en.eval room) item separator most bound 1 first >>= fun p =>
      en.enough start min p >>= k) s
      (en.eval room' (separator.laterItems item min most) >>= k') t := by
  apply Beside.open_right
  intro below v _ htv
  have hsv : Peer s v := hst.trans htv
  have hs : s.fuel < s.fuel + v.fuel + 1 := by omega
  have hv : v.fuel < s.fuel + v.fuel + 1 := by omega
  have hlist := moreItems_bound en (eval_spends en room) item separator most bound _ 1 first s
    hbound hs
  have hrepetition := repetition_eq en (eval_spends en below) (separator.nextItem item) (min - 1)
    (most.map (· - 1)) _ v hv
  change Beside Q _ s (en.repetition (en.eval below) (separator.nextItem item) (min - 1)
    (most.map (· - 1)) >>= _) v
  unfold Beside
  rw [bind_of_eq hlist, bind_of_eq hrepetition]
  simp only [bind_assoc]
  apply Beside.right
  rw [leads_cursor]
  apply (moreItems_beside_rounds hmost hsv _ 0 [] first).bind
  rintro ⟨count, items⟩ ⟨count', items'⟩ u w ⟨hcount, hitems⟩ huw
  dsimp only at hcount hitems
  unfold Engine.enough
  by_cases hfew : count < min
  · have hfew' : count' < min - 1 := by omega
    rw [if_pos hfew, if_pos hfew']
    simp only [bind_assoc, pure_bind]
    apply Beside.left
    apply leads_rewind
    intro trace
    apply Beside.right
    apply leads_rewind
    intro trace'
    apply Beside.right
    apply close_leads
    intro x hx
    have hlevel : Apart { u with scanner := u.scanner.reset start, trace := trace } x :=
      { huw.toApart.trans { hx.toApart with } with }
    exact hnone _ x hlevel rfl
  · have henough : ¬ count' < min - 1 := by omega
    have hvalues : items.reverse = first.reverse ++ items'.reverse := by
      rw [hitems, List.reverse_append]
    rw [if_neg hfew, if_neg henough, pure_bind, pure_bind]
    apply Beside.right
    apply close_leads
    intro x hx
    dsimp only
    rw [hvalues]
    exact hsome items'.reverse u x (huw.trans hx)

/-- A separated list beside its expansion. The first item is the one that the list
would not take if it stood still, and the sequence would. -/
theorem separated_beside_expanded (hmost : most ≠ some 0) {min : Nat} (hmin : 1 ≤ min)
    (hitem : ∀ room out t, en.eval room item s = .ok (some out) t →
      s.scanner.position < t.scanner.position) :
    Beside Eq (en.eval room (separator.separatedBy item min most)) s
      (en.eval room (separator.expandedList item min most)) s := by
  rw [← bind_pure (en.eval room (separator.separatedBy item min most)),
    ← bind_pure (en.eval room (separator.expandedList item min most))]
  apply Beside.opened_left
  intro below _
  have hopened : Peer s (s.opened en.tracer (separator.separatedBy item min most)) :=
    Peer.opened _ _ _
  have hpaid : (s.opened en.tracer (separator.separatedBy item min most)).fuel ≤ s.fuel :=
    Nat.sub_le s.fuel 1
  generalize s.opened en.tracer (separator.separatedBy item min most) = u at hopened hpaid ⊢
  apply Beside.open_sequence_right
  intro below' v hsv
  change Beside Eq (en.separated (en.eval below) item separator min most >>= _) u _ v
  unfold Engine.separated Engine.firstItem
  rw [if_neg hmost, allOf_cons]
  simp only [bind_assoc]
  apply Beside.left
  rw [leads_get]
  apply Beside.left
  rw [leads_cursor]
  apply (eval_beside en below below' item u v (hopened.symm.trans hsv)).bind_of_ok
  rintro r _ u' v' hrun _ rfl huv
  cases r with
  | none =>
    have hfew : 0 < min := hmin
    unfold Engine.enough
    dsimp only
    rw [pure_bind, pure_bind, if_pos rfl, if_pos hfew]
    simp only [bind_assoc, pure_bind]
    apply Beside.left
    apply leads_rewind
    intro trace
    exact close_beside_leave_none { huv.toApart with } hopened.cursor
  | some out =>
    have hmoves := moves_of_peer hopened hpaid hitem hrun
    have hspent : u'.fuel < u.fuel + 1 := by
      have hless : u'.fuel < u.fuel := (eval_spends en below item u).of_ok hrun
      omega
    dsimp only
    rw [bind_assoc]
    apply Beside.left
    rw [leads_cursor, if_pos hmoves, pure_bind, List.append_nil, allOf_cons]
    dsimp only
    rw [if_neg Nat.one_ne_zero]
    simp only [bind_assoc]
    apply moreItems_beside_laterItems hmost hmin huv hspent
    · intro x y hxy hx
      dsimp only
      rw [pure_bind]
      exact close_beside_leave_none hxy (hx.trans hopened.cursor)
    · intro items x y hxy
      have hvalues : (items.reverse ++ out.items.reverse).reverse =
          out.items.reverse.reverse ++ items := by
        rw [List.reverse_append, List.reverse_reverse items]
      dsimp only
      rw [Contribution.items_flatten]
      change Beside Eq _ x (pure (some (items.reverse ++ out.items.reverse).reverse) >>= _) y
      rw [pure_bind, hvalues]
      refine close_beside_leave_some hxy ?_ _
      rfl

end Beside

/-- What can be seen of a step when it is over: its result and the place it led to,
or its error, and which failures were noted. -/
def seen {α : Type} (r : EStateM.Result ParseError (State σ) α) :
    Except ParseError (α × Cursor) × Furthest :=
  match r with
  | .ok a t => (.ok (a, t.scanner.cursor), t.furthest)
  | .error e t => (.error e, t.furthest)

/-- The step is not ended by a limit. -/
def Unlimited {α : Type} (r : EStateM.Result ParseError (State σ) α) : Prop :=
  ∀ e t, r = .error e t → ¬ e.IsLimit

theorem Consistent.seen_eq {α : Type} {r r' : EStateM.Result ParseError (State σ) α}
    (h : Consistent Eq r r') (hr : Unlimited r) (hr' : Unlimited r') : seen r = seen r' := by
  cases h with
  | ok related peer =>
    subst related
    dsimp only [seen]
    rw [peer.cursor, peer.furthest]
  | error furthest =>
    dsimp only [seen]
    rw [furthest]
  | limited limit => exact absurd limit (hr _ _ rfl)
  | limited' limit => exact absurd limit (hr' _ _ rfl)

/-- A separated list of at least one item equals its expansion, wherever the item
does not match without moving the cursor. Both fail or both succeed with the same
list at the same place, and they note the same failures. -/
theorem separated_eq_expansion (en : Engine σ) (room : Nat) (separator item : Element) (min : Nat)
    (max : Option Nat) (s : State σ) (hmin : 1 ≤ min) (hmax : max ≠ some 0)
    (hitem : ∀ room out t, en.eval room item s = .ok (some out) t →
      s.scanner.position < t.scanner.position)
    (hlist : Unlimited (en.eval room (separator.separatedBy item min max) s))
    (hexpanded : Unlimited (en.eval room (separator.expandedList item min max) s)) :
    seen (en.eval room (separator.separatedBy item min max) s) =
      seen (en.eval room (separator.expandedList item min max) s) :=
  Consistent.seen_eq (separated_beside_expanded hmax hmin hitem) hlist hexpanded

namespace Numbered

/-- A run on digits, of which at most two are taken. -/
def engine : Engine Unit :=
  ⟨[], {}, .silent⟩

def start : State Unit :=
  Grammar.startState {} ['1', ',', '1', ',', '1', ','] ()

end Numbered

/-- A list of at most two digits leaves the third one and both its separators. -/
theorem two_digits_expanded :
    let list := Element.comma.separatedBy (.literal "1") 1 (some 2)
    let expanded := Element.comma.expandedList (.literal "1") 1 (some 2)
    seen (Numbered.engine.eval 9 list Numbered.start) =
      seen (Numbered.engine.eval 9 expanded Numbered.start) := by
  intro list expanded
  have hmoves : passes (Numbered.engine.eval 1 (.literal "1")) Numbered.start (fun _ t =>
      Numbered.start.scanner.position < t.scanner.position) = true := by decide +kernel
  have hok : ∀ m : Eval Unit (Option Contribution),
      passes m Numbered.start (fun _ _ => true) = true → Unlimited (m Numbered.start) := by
    intro m hm e t he
    unfold passes at hm
    rw [he] at hm
    cases hm
  apply separated_eq_expansion
  · exact Nat.le_refl 1
  · exact nofun
  · intro room out t h
    cases room with
    | zero => cases h
    | succ room =>
      have hsame : Numbered.engine.eval (room + 1) (.literal "1") Numbered.start =
          Numbered.engine.eval 1 (.literal "1") Numbered.start := rfl
      unfold passes at hmoves
      rw [← hsame, h] at hmoves
      exact of_decide_eq_true hmoves
  · exact hok _ (by decide +kernel)
  · exact hok _ (by decide +kernel)

end Peg
