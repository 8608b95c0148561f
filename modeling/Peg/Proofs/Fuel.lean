import Peg.Proofs.Soundness

/-!
How fuel is spent.

An evaluation pays first and looks at its depth next; only then is it opened.
As each one pays, the bounds that the fuel puts on repetitions and lists are
never reached.
-/
namespace Peg

/-- Every evaluation with a result costs fuel. -/
def Spends {σ : Type} (sub : Sub σ) : Prop :=
  ∀ e s, Eval.Leads (sub e) s (fun _ t => t.fuel < s.fuel) fun _ _ => True

/-- The state in which an element is looked at: its evaluation is paid for and
open. -/
def State.opened {σ : Type} (s : State σ) (tracer : Tracer σ) (e : Element) : State σ :=
  { s with
    fuel := s.fuel - 1
    depth := s.depth + 1
    trace := tracer.enter e s.scanner.position s.trace }

/-- The end of an evaluation. -/
def Engine.close {σ : Type} (en : Engine σ) (e : Element) (entry : Cursor) :
    Option Contribution → Eval σ (Option Contribution)
  | some out => do
    Eval.succeed en.tracer e entry
    return some (out.decorate e.decor)
  | none => do
    Eval.fail en.tracer e
    return none

section Step

open Eval

variable {σ : Type} (en : Engine σ) (e : Element) {s : State σ}

theorem spend_of_fuel {limits : Limits} (h : s.fuel ≠ 0) :
    spend limits s = .ok () { s with fuel := s.fuel - 1 } := by
  change (if s.fuel = 0 then _ else _ : Eval σ Unit) s = _
  rw [if_neg h]
  rfl

theorem spend_of_empty {limits : Limits} (h : s.fuel = 0) :
    spend limits s = .error (.fuelExhausted limits.fuel) s := by
  change (if s.fuel = 0 then _ else _ : Eval σ Unit) s = _
  rw [if_pos h]
  rfl

/-- An empty tank ends an evaluation before it is opened. -/
theorem eval_of_empty (room : Nat) (h : s.fuel = 0) :
    en.eval room e s = .error (.fuelExhausted en.limits.fuel) s := by
  cases room with
  | zero => exact bind_of_error (spend_of_empty h)
  | succ room => exact bind_of_error (spend_of_empty h)

/-- So does a full stack, after the evaluation was paid for. -/
theorem eval_of_full (h : s.fuel ≠ 0) :
    en.eval 0 e s = .error (.recursionLimit en.limits.depth) { s with fuel := s.fuel - 1 } :=
  bind_of_ok (spend_of_fuel h)

/-- Without fuel or room no evaluation has a result. -/
theorem eval_of_spent {room : Nat} (h : room = 0 ∨ s.fuel = 0) :
    ∃ error t, en.eval room e s = .error error t ∧ error.isNoMatch = false := by
  by_cases hfuel : s.fuel = 0
  · exact ⟨_, _, eval_of_empty en e room hfuel, rfl⟩
  · obtain rfl : room = 0 := h.resolve_right hfuel
    exact ⟨_, _, eval_of_full en e hfuel, rfl⟩

/-- Otherwise the element is looked at in the opened state. -/
theorem eval_of_fuel (room : Nat) (h : s.fuel ≠ 0) :
    en.eval (room + 1) e s =
      (en.evalKind (en.eval room) e >>= en.close e s.scanner.cursor) (s.opened en.tracer e) :=
  bind_of_ok (spend_of_fuel h)

/-- Every evaluation costs fuel. -/
theorem eval_spends (room : Nat) : Spends (en.eval room) := by
  intro e s
  have hfollows := BigStep.eval_follows (k := BigStep.contextOf en.rules s) en rfl room e s rfl
  refine hfollows.mono ?_ fun _ _ _ => trivial
  rintro r t ⟨-, n, h, hkept, -, hyields⟩
  have hpos := hyields.size_pos
  have hfuel := hkept.fuel
  omega

end Step

section Bound

open Eval

variable {σ : Type} {sub : Sub σ}

/-- The rounds of a repetition do not depend on their bound: the fuel ends
before it is reached. -/
theorem rounds_bound (hsub : Spends sub) (child : Element) (most : Option Nat)
    (bound bound' count : Nat) (items : List Value) (s : State σ) (h : s.fuel < bound)
    (h' : s.fuel < bound') :
    Engine.rounds sub child most bound count items s =
      Engine.rounds sub child most bound' count items s := by
  induction bound generalizing bound' count items s with
  | zero => omega
  | succ bound ih =>
    obtain ⟨bound', rfl⟩ := Nat.exists_eq_add_one_of_ne_zero (n := bound') (by omega)
    simp only [Engine.rounds]
    split
    · refine bind_congr rfl fun mark u hu => bind_congr rfl fun r v hv => ?_
      cases hu
      -- The round has cost fuel, so both bounds still suffice for the rest.
      have hspent : v.fuel < s.fuel := (hsub child s).of_ok hv
      cases r with
      | none => rfl
      | some out =>
        refine bind_congr rfl fun stop w hw => ?_
        cases hw
        split
        · exact ih _ _ _ v (by omega) (by omega)
        · rfl
    · rfl

theorem moreItems_bound (en : Engine σ) (hsub : Spends sub) (item separator : Element)
    (most : Option Nat) (bound bound' count : Nat) (items : List Value) (s : State σ)
    (h : s.fuel < bound) (h' : s.fuel < bound') :
    en.moreItems sub item separator most bound count items s =
      en.moreItems sub item separator most bound' count items s := by
  induction bound generalizing bound' count items s with
  | zero => omega
  | succ bound ih =>
    obtain ⟨bound', rfl⟩ := Nat.exists_eq_add_one_of_ne_zero (n := bound') (by omega)
    simp only [Engine.moreItems]
    split
    · refine bind_congr rfl fun mark u hu => bind_congr rfl fun r v hv => ?_
      cases hu
      have hseparator : v.fuel < s.fuel := (hsub separator s).of_ok hv
      cases r with
      | none => rfl
      | some sep =>
        refine bind_congr rfl fun r w hw => ?_
        have hitem : w.fuel < v.fuel := (hsub item v).of_ok hw
        cases r with
        | none => rfl
        | some out =>
          refine bind_congr rfl fun stop x hx => ?_
          cases hx
          split
          · exact ih _ _ _ w (by omega) (by omega)
          · rfl
    · rfl

/-- A repetition under any bound that its fuel does not reach. -/
theorem repetition_eq (en : Engine σ) (hsub : Spends sub) (child : Element) (min : Nat)
    (most : Option Nat) (bound : Nat) (s : State σ) (h : s.fuel < bound) :
    en.repetition sub child min most s = (do
      let start ← cursor
      let result ← Engine.rounds sub child most bound 0 []
      en.enough start min result) s :=
  bind_congr (rounds_bound hsub child most (s.fuel + 1) bound 0 [] s (by omega) h)
    fun _ _ _ => rfl

theorem firstItem_fuel (hsub : Spends sub) (item : Element) (most : Option Nat) (s : State σ) :
    Leads (Engine.firstItem sub item most) s (fun _ t => t.fuel ≤ s.fuel) fun _ _ => True := by
  unfold Engine.firstItem
  split
  · exact Nat.le_refl _
  · simp only [leads_bind, leads_cursor]
    refine (hsub item s).mono ?_ fun _ _ _ => trivial
    rintro (_ | out) t ht
    · exact Nat.le_of_lt ht
    · simp only [leads_bind, leads_cursor]
      split
      · exact Nat.le_of_lt ht
      · exact Nat.le_of_lt ht

/-- A separated list under any bound that its fuel does not reach. -/
theorem separated_eq (en : Engine σ) (hsub : Spends sub) (item separator : Element) (min : Nat)
    (most : Option Nat) (bound : Nat) (s : State σ) (h : s.fuel < bound) :
    en.separated sub item separator min most s = (do
      let start ← cursor
      let (count, items) ← Engine.firstItem sub item most
      if count = 0 then en.enough start min (0, items)
      else
        let result ← en.moreItems sub item separator most bound count items
        en.enough start min result) s := by
  refine bind_congr (m := Engine.firstItem sub item most) rfl ?_
  rintro ⟨count, items⟩ t ht
  have hfuel : t.fuel ≤ s.fuel := (firstItem_fuel hsub item most s).of_ok ht
  dsimp only
  split
  · rfl
  · have hitems := moreItems_bound en hsub item separator most (s.fuel + 1) bound count items t
      (by omega) (by omega)
    exact bind_congr hitems fun _ _ _ => rfl

end Bound

end Peg
