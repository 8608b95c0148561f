import Peg.Grammar.Combinator
import Peg.Proofs.Equality
import Peg.Proofs.Soundness

/-!
Every derivation is carried out.

Where the fuel reaches for the elements of a derivation and the room for its
height, an evaluation ends in just the outcome that was derived.
-/
namespace Peg.BigStep

open Eval

variable {σ : Type} {k : Context}

/-- No error at all. -/
def Never (_ : ParseError) (_ : State σ) : Prop :=
  False

/-- The state stands at `c` in the context `k` and can pay for `n` elements. -/
structure Ready (k : Context) (c : Cursor) (n : Nat) (s : State σ) : Prop where
  context : contextOf k.rules s = k
  cursor : s.scanner.cursor = c
  fuel : n ≤ s.fuel

/-- The meaning that an evaluation of sub-elements carries out. Every element
costs something, which is what bounds the loops. -/
def Carried (k : Context) (sub : Sub σ) : Meaning :=
  fun e c o n _ => 0 < n ∧ ∀ s, Ready k c n s → Leads (sub e) s (Reaches n s o) Never

theorem Reaches.of_some {n : Nat} {s t : State σ} {out : Contribution} {d : Cursor}
    {r : Option Contribution} (h : Reaches n s (some (out, d)) r t) :
    Kept n s t ∧ r = some out ∧ t.scanner.cursor = d := by
  obtain ⟨hkept, hout, -⟩ := h
  obtain ⟨out', rfl, heq⟩ := Option.map_eq_some_iff.mp hout
  cases heq
  exact ⟨hkept, rfl, rfl⟩

theorem Reaches.of_none {n : Nat} {s t : State σ} {r : Option Contribution}
    (h : Reaches n s none r t) :
    Kept n s t ∧ r = none ∧ t.scanner.cursor = s.scanner.cursor := by
  obtain ⟨hkept, hout, hback⟩ := h
  obtain rfl := Option.map_eq_none_iff.mp hout
  exact ⟨hkept, rfl, hback rfl⟩

/-- After the first `n` elements a state is ready for those that follow. -/
theorem Ready.next {c d : Cursor} {n n' : Nat} {s t : State σ} (hs : Ready k c (n + n') s)
    (hkept : Kept n s t) (hd : t.scanner.cursor = d) : Ready k d n' t where
  context := (contextOf_eq_of_kept hkept).trans hs.context
  cursor := hd
  fuel := by
    have := hs.fuel
    have := hkept.fuel
    omega

theorem Ready.mono {c : Cursor} {n n' : Nat} {s : State σ} (hs : Ready k c n s) (h : n' ≤ n) :
    Ready k c n' s :=
  ⟨hs.context, hs.cursor, Nat.le_trans h hs.fuel⟩

/-- Follows a sub-element that does not match to what comes after it. -/
theorem Carried.miss {sub : Sub σ} {e : Element} {c : Cursor} {n h : Nat}
    (hsub : Carried k sub e c none n h) {s : State σ} (hs : Ready k c n s)
    {post : Option Contribution → State σ → Prop}
    (hpost : ∀ t, Kept n s t → t.scanner.cursor = c → post none t) :
    Leads (sub e) s post Never := by
  refine (hsub.2 s hs).imp ?_
  intro r t hreach
  obtain ⟨hkept, rfl, hcursor⟩ := hreach.of_none
  exact hpost t hkept (hcursor.trans hs.cursor)

/-- Follows a sub-element that matches to what comes after it. -/
theorem Carried.hit {sub : Sub σ} {e : Element} {c d : Cursor} {out : Contribution} {n h : Nat}
    (hsub : Carried k sub e c (some (out, d)) n h) {s : State σ} (hs : Ready k c n s)
    {post : Option Contribution → State σ → Prop}
    (hpost : ∀ t, Kept n s t → t.scanner.cursor = d → post (some out) t) :
    Leads (sub e) s post Never := by
  refine (hsub.2 s hs).imp ?_
  intro r t hreach
  obtain ⟨hkept, rfl, hcursor⟩ := hreach.of_some
  exact hpost t hkept hcursor

theorem All.carried {sub : Sub σ} {es : List Element} {c : Cursor}
    {o : Option (List Value × Cursor)} {n h : Nat} (ha : All (Carried k sub) es c o n h)
    (items : List Value) (s : State σ) (hs : Ready k c n s) :
    Leads (Engine.allOf sub items es) s (fun r t => Kept n s t ∧
      r = o.map (items.reverse ++ ·.1) ∧ ∀ p, o = some p → t.scanner.cursor = p.2) Never := by
  induction ha generalizing items s with
  | nil c =>
    refine ⟨Kept.refl s, by simp, ?_⟩
    rintro p ⟨⟩
    exact hs.cursor
  | miss first =>
    unfold Engine.allOf
    rw [leads_bind]
    refine first.miss hs fun t hkept _ => ⟨hkept, rfl, ?_⟩
    rintro p ⟨⟩
  | @cons e rest c d out own o n h n' h' first adds others ih =>
    obtain rfl := adds_iff.mp adds
    unfold Engine.allOf
    rw [leads_bind]
    refine first.hit (hs.mono (by omega)) fun t hkept hd => ?_
    refine (ih _ t (hs.next hkept hd)).imp ?_
    rintro r u ⟨hkept', rfl, hstop⟩
    refine ⟨hkept.trans hkept', ?_, ?_⟩
    · cases o <;> simp
    · intro p hp
      obtain ⟨p', rfl, rfl⟩ := Option.map_eq_some_iff.mp hp
      exact hstop p' rfl

theorem sequence_carried (en : Engine σ) {sub : Sub σ} {children : List Element} {c : Cursor}
    {o : Option (List Value × Cursor)} {n h : Nat} (ha : All (Carried k sub) children c o n h)
    (s : State σ) (hs : Ready k c n s) :
    Leads (en.sequence sub children) s
      (Reaches n s (o.map fun (items, stop) => (.one (.list items), stop))) Never := by
  unfold Engine.sequence
  simp only [leads_bind, leads_get, leads_setScanner]
  have hpushed : Ready k c n { s with scanner := s.scanner.pushMark } :=
    ⟨hs.context, hs.cursor, hs.fuel⟩
  refine (ha.carried [] _ hpushed).imp ?_
  rintro r t ⟨hkept, rfl, hstop⟩
  have hmarks : t.scanner.marks = s.scanner.cursor :: s.scanner.marks := hkept.marks
  cases o with
  | none =>
    simp only [Option.map_none, leads_bind, leads_cursor, leads_get, back_of_marks hmarks,
      leads_ofMarks]
    refine leads_backtracked fun trace => ?_
    exact ⟨kept_unmarked hkept _ trace, rfl, fun _ => rfl⟩
  | some p =>
    simp only [Option.map_some, leads_bind, leads_get, popMark_of_marks hmarks, leads_ofMarks,
      leads_pure]
    refine ⟨kept_unmarked hkept _ t.trace, ?_, nofun⟩
    simp [hstop p rfl]

theorem First.carried {sub : Sub σ} {es : List Element} {c : Cursor} {o : Outcome} {n h : Nat}
    (hf : First (Carried k sub) es c o n h) (s : State σ) (hs : Ready k c n s) :
    Leads (Engine.firstOf sub es) s (Reaches n s o) Never := by
  induction hf generalizing s with
  | nil c => exact ⟨Kept.refl s, rfl, fun _ => rfl⟩
  | hit first =>
    unfold Engine.firstOf
    rw [leads_bind]
    refine first.hit hs fun t hkept hd => ⟨hkept, by simp [hd], ?_⟩
    rintro ⟨⟩
  | next first _ ih =>
    unfold Engine.firstOf
    rw [leads_bind]
    refine first.miss (hs.mono (by omega)) fun t hkept hc => ?_
    refine (ih t (hs.next hkept hc)).imp ?_
    rintro r u ⟨hkept', hout, hback⟩
    exact ⟨hkept.trans hkept', hout, fun hr => (hback hr).trans (hc.trans hs.cursor.symm)⟩

/-- A repetition goes through the derived rounds and stops. The bound does not
get in the way, as it is beyond the fuel. -/
theorem Rounds.carried {sub : Sub σ} {count total n h : Nat} {child : Element}
    {most : Option Nat} {c stop : Cursor} {vs : List Value}
    (hr : Rounds (Carried k sub) count child most c total vs stop n h) (bound : Nat)
    (items : List Value) (s : State σ) (hs : Ready k c n s) (hbound : s.fuel ≤ bound) :
    Leads (Engine.rounds sub child most (bound + 1) count items) s (fun r t => Kept n s t ∧
      r = (total, vs.reverse ++ items) ∧ t.scanner.cursor = stop) Never := by
  induction hr generalizing bound items s with
  | full c enough =>
    unfold Engine.rounds
    rw [if_neg (fun h => enough (belowMax_iff.mp h))]
    exact ⟨Kept.refl s, rfl, hs.cursor⟩
  | stop below last =>
    simp only [Engine.rounds, if_pos (belowMax_iff.mpr below), leads_bind, leads_cursor]
    cases last with
    | miss first => exact first.miss hs fun t hkept hc => ⟨hkept, rfl, hc⟩
    | still first stays =>
      refine first.hit hs fun t hkept hd => ?_
      simp only [leads_bind, leads_cursor]
      rw [if_neg (by rw [hd, hs.cursor]; omega)]
      exact ⟨hkept.moved _ _ _, rfl, hs.cursor⟩
  | round below first adds moves _ ih =>
    obtain rfl := adds_iff.mp adds
    simp only [Engine.rounds, if_pos (belowMax_iff.mpr below), leads_bind, leads_cursor]
    refine first.hit (hs.mono (by omega)) fun t hkept hd => ?_
    simp only [leads_bind, leads_cursor]
    rw [if_pos (by rw [hd, hs.cursor]; exact moves)]
    -- The fuel pays for at least one element, so the bound is not used up.
    obtain ⟨bound, rfl⟩ : ∃ b, bound = b + 1 := by
      have := hs.fuel
      have := first.1
      exact ⟨bound - 1, by omega⟩
    have hspent : t.fuel ≤ bound := by
      have := hkept.fuel
      have := first.1
      omega
    refine (ih bound _ t (hs.next hkept hd) hspent).imp ?_
    rintro r u ⟨hkept', rfl, hstop⟩
    exact ⟨hkept.trans hkept', by simp, hstop⟩

theorem More.carried (en : Engine σ) {sub : Sub σ} {count total n h : Nat}
    {item separator : Element} {most : Option Nat} {c stop : Cursor} {vs : List Value}
    (hm : More (Carried k sub) count item separator most c total vs stop n h) (bound : Nat)
    (items : List Value) (s : State σ) (hs : Ready k c n s) (hbound : s.fuel ≤ bound) :
    Leads (en.moreItems sub item separator most (bound + 1) count items) s (fun r t =>
      Kept n s t ∧ r = (total, vs.reverse ++ items) ∧ t.scanner.cursor = stop) Never := by
  induction hm generalizing bound items s with
  | full c enough =>
    unfold Engine.moreItems
    rw [if_neg (fun h => enough (belowMax_iff.mp h))]
    exact ⟨Kept.refl s, rfl, hs.cursor⟩
  | noSeparator below last =>
    simp only [Engine.moreItems, if_pos (belowMax_iff.mpr below), leads_bind, leads_cursor]
    exact last.miss hs fun t hkept hc => ⟨hkept, rfl, hc⟩
  | noItem below first last =>
    simp only [Engine.moreItems, if_pos (belowMax_iff.mpr below), leads_bind, leads_cursor]
    refine first.hit (hs.mono (by omega)) fun t hkept hd => ?_
    rw [leads_bind]
    refine last.miss (hs.next hkept hd) fun u hkept' _ => ?_
    rw [leads_bind]
    exact leads_rewind fun trace => ⟨(hkept.trans hkept').moved _ _ _, rfl, hs.cursor⟩
  | still below first second stays =>
    simp only [Engine.moreItems, if_pos (belowMax_iff.mpr below), leads_bind, leads_cursor]
    refine first.hit (hs.mono (by omega)) fun t hkept hd => ?_
    rw [leads_bind]
    refine second.hit (hs.next hkept hd) fun u hkept' hd' => ?_
    simp only [leads_bind, leads_cursor]
    rw [if_neg (by rw [hd', hs.cursor]; omega), leads_bind]
    exact leads_rewind fun trace => ⟨(hkept.trans hkept').moved _ _ _, rfl, hs.cursor⟩
  | item below first second moves separates adds _ ih =>
    obtain rfl := adds_iff.mp separates
    obtain rfl := adds_iff.mp adds
    simp only [Engine.moreItems, if_pos (belowMax_iff.mpr below), leads_bind, leads_cursor]
    have hs' := hs.mono (Nat.le_add_right _ _)
    refine first.hit (hs'.mono (by omega)) fun t hkept hd => ?_
    rw [leads_bind]
    refine second.hit (hs'.next hkept hd) fun u hkept' hd' => ?_
    simp only [leads_bind, leads_cursor]
    rw [if_pos (by rw [hd', hs.cursor]; exact moves)]
    obtain ⟨bound, rfl⟩ : ∃ b, bound = b + 1 := by
      have := hs.fuel
      have := first.1
      exact ⟨bound - 1, by omega⟩
    have hspent : u.fuel ≤ bound := by
      have := (hkept.trans hkept').fuel
      have := first.1
      omega
    refine (ih bound _ u (hs.next (hkept.trans hkept') hd') hspent).imp ?_
    rintro r v ⟨hkept'', rfl, hstop⟩
    exact ⟨(hkept.trans hkept').trans hkept'', by simp, hstop⟩

/-- What remains after the items of a loop. -/
theorem enough_carried (en : Engine σ) {n min total : Nat} {items vs : List Value}
    {stop : Cursor} {s t : State σ} (hkept : Kept n s t) (hitems : items.reverse = vs)
    (hstop : t.scanner.cursor = stop) :
    Leads (en.enough s.scanner.cursor min (total, items)) t
      (Reaches n s (if total < min then none else some (.one (.list vs), stop))) Never := by
  refine leads_enough en ?_ ?_
  · intro hfew trace
    rw [if_pos hfew]
    exact ⟨hkept.moved _ _ _, rfl, fun _ => rfl⟩
  · intro henough
    rw [if_neg (Nat.not_lt.mpr henough)]
    exact ⟨hkept, by simp [hitems, hstop], nofun⟩

theorem repetition_carried (en : Engine σ) {sub : Sub σ} {total n h : Nat} (min : Nat)
    {child : Element} {most : Option Nat} {c stop : Cursor} {vs : List Value}
    (hr : Rounds (Carried k sub) 0 child most c total vs stop n h) (s : State σ)
    (hs : Ready k c n s) :
    Leads (en.repetition sub child min most) s
      (Reaches n s (if total < min then none else some (.one (.list vs), stop))) Never := by
  unfold Engine.repetition
  simp only [leads_bind, leads_get]
  refine (hr.carried s.fuel [] s hs (Nat.le_refl _)).imp ?_
  rintro r t ⟨hkept, rfl, hstop⟩
  exact enough_carried en hkept (by simp) hstop

theorem separated_carried (en : Engine σ) {sub : Sub σ} {total n h : Nat} (min : Nat)
    {item separator : Element} {most : Option Nat} {c stop : Cursor} {vs : List Value}
    (hl : Listed (Carried k sub) item separator most c total vs stop n h) (s : State σ)
    (hs : Ready k c n s) :
    Leads (en.separated sub item separator min most) s
      (Reaches n s (if total < min then none else some (.one (.list vs), stop))) Never := by
  unfold Engine.separated Engine.firstItem
  simp only [leads_bind, leads_get]
  cases hl with
  | closed c =>
    rw [if_pos rfl]
    exact enough_carried en (Kept.refl s) rfl hs.cursor
  | empty allowed last =>
    rw [if_neg allowed]
    simp only [leads_bind, leads_cursor]
    cases last with
    | miss first => exact first.miss hs fun t hkept hc => enough_carried en hkept rfl hc
    | still first stays =>
      refine first.hit hs fun t hkept hd => ?_
      simp only [leads_bind, leads_cursor]
      rw [if_neg (by rw [hd, hs.cursor]; omega)]
      exact enough_carried en (hkept.moved _ _ _) rfl hs.cursor
  | item allowed first moves adds others =>
    obtain rfl := adds_iff.mp adds
    rw [if_neg allowed]
    simp only [leads_bind, leads_cursor]
    refine first.hit (hs.mono (by omega)) fun t hkept hd => ?_
    simp only [leads_bind, leads_cursor]
    rw [if_pos (by rw [hd, hs.cursor]; exact moves), leads_pure, if_neg Nat.one_ne_zero,
      leads_bind]
    have hbound : t.fuel ≤ s.fuel := by
      have := hkept.fuel
      omega
    refine (others.carried en s.fuel _ t (hs.next hkept hd) hbound).imp ?_
    rintro r u ⟨hkept', rfl, hstop⟩
    exact enough_carried en (hkept.trans hkept') (by simp) hstop

/-- A typed leaf comes to what its conversion makes of its child. -/
theorem convert_carried {sub : Sub σ} (e : Element) {child : Element}
    (f : String → Option Value) {c : Cursor} {inner : Outcome} {n h : Nat}
    (hsub : Carried k sub child c inner n h) (s : State σ) (hs : Ready k c n s) :
    Leads (Engine.convert sub e child f) s (Reaches n s (inner.bind fun (out, stop) =>
      (f (k.token c stop out)).map (.one ·, stop))) Never := by
  unfold Engine.convert
  simp only [leads_bind, leads_cursor, leads_modify, leads_get]
  have hquiet : Ready k c n { s with quiet := s.quiet + 1 } := ⟨hs.context, hs.cursor, hs.fuel⟩
  refine (hsub.2 _ hquiet).imp ?_
  rintro r t ⟨hkept, rfl, -⟩
  have hclosed := kept_loud hkept
  have ht : contextOf k.rules t = k := (contextOf_eq_of_kept hkept).trans hs.context
  cases hr : r.bind fun out => f (Engine.leafText t.scanner s.scanner.cursor out) with
  | none =>
    simp only [leads_bind, leads_reset, leads_skippedCursor]
    refine leads_record fun note => ⟨hclosed.moved _ _ _, ?_, fun _ => rfl⟩
    cases r with
    | none => rfl
    | some out =>
      rw [Option.bind_some, leafText_eq ht, hs.cursor] at hr
      simp [hr]
  | some v =>
    refine ⟨hclosed, ?_, nofun⟩
    cases r with
    | none => cases hr
    | some out =>
      rw [Option.bind_some, leafText_eq ht, hs.cursor] at hr
      simp [hr]

theorem OfKind.carried (en : Engine σ) (hk : en.rules = k.rules) {sub : Sub σ} {e : Element}
    {c : Cursor} {o : Outcome} {n h : Nat} (hkind : OfKind (Carried k sub) k e.kind c o n h)
    (s : State σ) (hs : Ready k c n s) :
    Leads (en.evalKind sub e) s (Reaches n s o) Never := by
  unfold Engine.evalKind
  obtain rfl := hs.cursor
  generalize e.kind = kind at hkind ⊢
  cases hkind with
  | @literal text _ _ stop skips found =>
    obtain rfl := skips_iff.mp skips
    have hleaf : Leads _ s _ Never := literal_reaches e text hs.context
    rwa [Scanner.dropWord?_eq_some_iff.mpr found.after_eq, Option.map_some, ← found.eq_past]
      at hleaf
  | @noLiteral text _ _ skips missing =>
    obtain rfl := skips_iff.mp skips
    have hleaf : Leads _ s _ Never := literal_reaches e text hs.context
    have hnone : ¬ text.toList <+: (k.skipped s.scanner.cursor).after := by
      intro hprefix
      obtain ⟨stop, hpasses⟩ := Cursor.exists_passes_iff.mpr hprefix
      exact missing stop hpasses
    rwa [Scanner.dropWord?_eq_none_iff.mpr hnone] at hleaf
  | @pattern regex capture _ _ m _ skips found gives =>
    obtain rfl := skips_iff.mp skips
    obtain rfl := gives_iff.mp gives
    have hleaf : Leads _ s _ Never := pattern_reaches e regex capture hs.context
    rwa [found] at hleaf
  | @noPattern regex capture _ _ skips missing =>
    obtain rfl := skips_iff.mp skips
    have hleaf : Leads _ s _ Never := pattern_reaches e regex capture hs.context
    rwa [missing] at hleaf
  | sequence all => exact sequence_carried en all s hs
  | alternation first => exact first.carried s hs
  | @repetition _ min _ _ _ _ _ _ _ rounds enough =>
    have hloop := repetition_carried en min rounds s hs
    rwa [if_neg (Nat.not_lt.mpr enough)] at hloop
  | @fewRounds _ min _ _ _ _ _ _ _ rounds few =>
    have hloop := repetition_carried en min rounds s hs
    rwa [if_pos few] at hloop
  | @separated _ _ min _ _ _ _ _ _ _ listed enough =>
    have hloop := separated_carried en min listed s hs
    rwa [if_neg (Nat.not_lt.mpr enough)] at hloop
  | @fewItems _ _ min _ _ _ _ _ _ _ listed few =>
    have hloop := separated_carried en min listed s hs
    rwa [if_pos few] at hloop
  | @convert _ _ f _ _ _ _ _ _ inner converts =>
    simpa [converts] using convert_carried e f inner s hs
  | @refused _ _ f _ _ _ _ _ inner refuses =>
    simpa [refuses] using convert_carried e f inner s hs
  | noConvert inner => exact convert_carried e _ inner s hs
  | endOfInput skips ended =>
    obtain rfl := skips_iff.mp skips
    have hleaf : Leads _ s _ Never := endOfInput_reaches e hs.context
    rwa [if_pos ended] at hleaf
  | notEnd skips more =>
    obtain rfl := skips_iff.mp skips
    have hleaf : Leads _ s _ Never := endOfInput_reaches e hs.context
    rwa [if_neg more] at hleaf
  | rule inner => exact inner.2 s hs
  | backref held inner =>
    simp only [Engine.backref, hk, held]
    exact inner.2 s hs

/-- Every derivation is carried out by an evaluation with at least as much room
as it is high. -/
theorem Yields.carried (en : Engine σ) (hk : en.rules = k.rules) {e : Element} {c : Cursor}
    {o : Outcome} {n h : Nat} (hy : Yields k e c o n h) (room : Nat) (hroom : h ≤ room) :
    Carried k (en.eval room) e c o n h := by
  refine Yields.induct (P := fun e c o n h => ∀ room, h ≤ room →
    Carried k (en.eval room) e c o n h) ?_ hy room hroom
  intro e c o n h hkind room hroom
  obtain ⟨room, rfl⟩ := Nat.exists_eq_succ_of_ne_zero (Nat.ne_zero_of_lt hroom)
  -- The sub-elements are lower by one level, and so is the room for them.
  have hinner : OfKind (Carried k (en.eval room)) k e.kind c o n h :=
    hkind.mono (fun _ _ _ _ _ hle hP => hP room (by omega)) (Nat.le_refl _)
  refine ⟨Nat.succ_pos _, ?_⟩
  intro s hs
  have hfuel : s.fuel ≠ 0 := by
    have := hs.fuel
    omega
  unfold Engine.eval
  rw [leads_bind, leads_spend, if_neg hfuel]
  simp only [leads_bind, leads_cursor]
  refine leads_enter fun trace => ?_
  have hready : Ready k c n
      { s with fuel := s.fuel - 1, depth := s.depth + 1, trace := trace } :=
    ⟨hs.context, hs.cursor, Nat.le_sub_one_of_lt hs.fuel⟩
  refine (hinner.carried en hk _ hready).imp ?_
  rintro r t ⟨hkept, rfl, hback⟩
  have hclosed : ∀ trace, Kept (n + 1) s { t with depth := t.depth - 1, trace := trace } :=
    fun trace => kept_closed hfuel hkept trace
  cases r with
  | none =>
    rw [leads_bind]
    exact leads_fail fun trace => ⟨hclosed trace, rfl, hback⟩
  | some out =>
    rw [leads_bind]
    exact leads_succeed fun trace => ⟨hclosed trace, rfl, nofun⟩

/-- The rules give an element one outcome at most, and one cost. -/
theorem Yields.unique {e : Element} {c : Cursor} {o o' : Outcome} {n n' h h' : Nat}
    (hy : Yields k e c o n h) (hy' : Yields k e c o' n' h') : o = o' ∧ n = n' := by
  let en : Engine Unit := ⟨k.rules, {}, .silent⟩
  let s : State Unit :=
    ⟨⟨c, [], k.skip, k.suppressed⟩, max n n', 0, 0, ⟨c, []⟩, ()⟩
  -- One run that can afford both derivations carries out both.
  have hrun := (hy.carried en rfl (max h h') (Nat.le_max_left _ _)).2 s
    ⟨rfl, rfl, Nat.le_max_left _ _⟩
  have hrun' := (hy'.carried en rfl (max h h') (Nat.le_max_right _ _)).2 s
    ⟨rfl, rfl, Nat.le_max_right _ _⟩
  obtain ⟨r, t, hresult, hkept, ho, -⟩ := hrun.exists_ok
  obtain ⟨hkept', ho', -⟩ := hrun'.of_ok hresult
  have hfuel := hkept.fuel
  have hfuel' := hkept'.fuel
  exact ⟨ho.symm.trans ho', by omega⟩

/-- Evaluation agrees with the rules. A result has a derivation of just this
outcome, which counts as many elements as fuel was spent and fits into the
room; a derivation for which the fuel and the room suffice is carried out with
just its outcome; and no two derivations come to different outcomes. -/
theorem eval_agrees_with_rules (en : Engine σ) (room : Nat) (e : Element) (s : State σ) :
    (∀ r t, en.eval room e s = .ok r t →
      ∃ n h, t.fuel + n = s.fuel ∧ h ≤ room ∧
        Yields (contextOf en.rules s) e s.scanner.cursor (r.map (·, t.scanner.cursor)) n h) ∧
      (∀ o n h, Yields (contextOf en.rules s) e s.scanner.cursor o n h → n ≤ s.fuel → h ≤ room →
        ∃ r t, en.eval room e s = .ok r t ∧ t.fuel + n = s.fuel ∧
          r.map (·, t.scanner.cursor) = o ∧
          (r = none → t.scanner.cursor = s.scanner.cursor)) ∧
      ∀ o o' n n' h h', Yields (contextOf en.rules s) e s.scanner.cursor o n h →
        Yields (contextOf en.rules s) e s.scanner.cursor o' n' h' → o = o' ∧ n = n' := by
  refine ⟨?_, ?_, ?_⟩
  · intro r t hresult
    have hfollows := eval_follows (k := contextOf en.rules s) en rfl room e s rfl
    obtain ⟨-, n, h, hkept, hroom, hyields⟩ := hfollows.of_ok hresult
    exact ⟨n, h, hkept.fuel, hroom, hyields⟩
  · intro o n h hyields hfuel hroom
    have hrun := (hyields.carried en rfl room hroom).2 s ⟨rfl, rfl, hfuel⟩
    obtain ⟨r, t, hresult, hkept, ho, hback⟩ := hrun.exists_ok
    exact ⟨r, t, hresult, hkept.fuel, ho, hback⟩
  · intro o o' n n' h h' hyields hyields'
    exact hyields.unique hyields'

/-- A letter, or any number of these in parentheses, by a rule that refers to itself. The
parentheses contribute nothing, and what is between them has no list of its own. -/
def parentheses : Element :=
  .ofKind (.rule (some 0) "p" (.alternation
    [.sequence [.strip (.literal "("), .flatten (.zeroOrMore (.ofKind (.backref "p" 0))),
      .strip (.literal ")")], .literal "x"]))

/-- The letters stand in a list for each pair of parentheses: alone in the inner one, and
one by one next to this list in the outer one. There is no other outcome, and an evaluation
that can afford the derivation comes to this one. -/
theorem parentheses_yield :
    let k : Context := ⟨[(0, parentheses)], none, 0⟩
    let value : Value := .list [.list [.text "x"], .text "x", .text "x"]
    let s : State Unit := Grammar.startState { skip := none } "((x)xx)".toList ()
    ∃ d n h, d.after = [] ∧ Yields k parentheses s.scanner.cursor (some (.one value, d)) n h ∧
      (∀ o n' h', Yields k parentheses s.scanner.cursor o n' h' → o = some (.one value, d)) ∧
      n ≤ s.fuel ∧ h ≤ 20 ∧ ∃ t, t.scanner.cursor = d ∧
        Engine.eval ⟨[(0, parentheses)], {}, .silent⟩ 20 parentheses s =
          .ok (some (.one value)) t := by
  intro k value s
  let en : Engine Unit := ⟨[(0, parentheses)], {}, .silent⟩
  have hrun : passes (en.eval 20 parentheses) s (fun r t => match r with
      | some (.one v) => value.same v && t.scanner.cursor.after.isEmpty
      | some .nothing | some (.splice _) | none => false) = true := by
    decide +kernel
  obtain ⟨r, t, hresult, htest⟩ := exists_ok_of_passes hrun
  obtain ⟨rfl, hend⟩ : r = some (.one value) ∧ t.scanner.cursor.after = [] := by
    rcases r with _ | (_ | v | _)
    · cases htest
    · cases htest
    · obtain ⟨hsame, hend⟩ := Bool.and_eq_true_iff.mp htest
      obtain rfl : value = v := Value.eq_of_same (by decide) hsame
      exact ⟨rfl, List.isEmpty_iff.mp hend⟩
    · cases htest
  obtain ⟨hsound, hcomplete, hunique⟩ := eval_agrees_with_rules en 20 parentheses s
  obtain ⟨n, h, hfuel, hroom, hyields⟩ := hsound _ _ hresult
  have hn : n ≤ s.fuel := hfuel ▸ Nat.le_add_left n t.fuel
  obtain ⟨r', t', hresult', -, houtcome, -⟩ := hcomplete _ n h hyields hn hroom
  obtain ⟨out, rfl, heq⟩ := Option.map_eq_some_iff.mp houtcome
  obtain ⟨rfl, hstop⟩ : out = .one value ∧ t'.scanner.cursor = t.scanner.cursor := by
    simpa using heq
  refine ⟨_, n, h, hend, hyields, ?_, hn, hroom, t', hstop, hresult'⟩
  intro o n' h' hyields'
  exact (hunique _ _ _ _ _ _ hyields' hyields).1

end Peg.BigStep
