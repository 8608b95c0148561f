import Peg.Proofs.Labelling
import Peg.Proofs.Tokens

/-!
The two levels that a sequence at the root can lose.

The root of a grammar gives up the level of a list of one item if it is a sequence.
A flattened sequence has given up such a level before. The two act one after the
other, so where the only item is itself a list of one item, flattening the root
takes the item out of that list too.
-/
namespace Peg

open Eval BigStep

/-- The root of a grammar gives up a list of one item. -/
theorem Contribution.toValue_list (items : List Value) :
    (Contribution.one (.list items)).toValue true = (Value.list items).unwrapped := by
  match items with
  | [] => rfl
  | [_] => rfl
  | _ :: _ :: _ => rfl

/-- Flattening before the root gives up its level is giving up one more level after it. -/
theorem Contribution.Proper.flatten_toValue_unwrap {out : Contribution} (h : out.Proper) :
    out.flatten.toValue true = (out.toValue true).unwrapped := by
  cases out with
  | nothing => rfl
  | one v =>
    cases v with
    | list items =>
      match items with
      | [] => rfl
      | [v] =>
        have hinner : (Contribution.one v).toValue true = v.unwrapped := by
          cases v with
          | list inner => exact toValue_list inner
          | _ => rfl
        exact hinner
      | _ :: _ :: _ => rfl
    | _ => rfl
  | splice vs =>
    match vs with
    | [] => rfl
    | [v] => exact absurd rfl (h v)
    | _ :: _ :: _ => rfl

/-- The value of a run goes through a function if the contribution of the root does. -/
theorem answer_map {σ : Type} {unwrap : Bool} {out out' : Contribution} {f : Value → Value}
    (h : out'.toValue unwrap = f (out.toValue unwrap)) (requireEnd : Bool) :
    (Engine.answer requireEnd unwrap (some out') : Eval σ (Value × Nat)) =
      Engine.answer requireEnd unwrap (some out) >>= fun p => Pure.pure (Prod.map f id p) := by
  simp only [Engine.answer, h, bind_assoc]
  congr 1
  funext stop
  cases requireEnd with
  | false => rfl
  | true =>
    rw [if_pos rfl, if_pos rfl, bind_assoc]
    rfl

section Flags

variable (en : Engine Unit) (hen : en.tracer = .silent) (label : Option String)
  (children : List Element) (s : State Unit)

include hen

/-- Unobserved, a flattened sequence takes the steps of the sequence, and only what it
contributes is another. -/
theorem eval_flatten (room : Nat) :
    en.eval room (.node { flattened := true, id := label } (.sequence children)) s =
      (en.eval room (.node { id := label } (.sequence children)) >>= fun r =>
        Pure.pure (r.map Contribution.flatten)) s := by
  obtain ⟨rules, limits, tracer⟩ := en
  obtain rfl : tracer = .silent := hen
  by_cases hfuel : s.fuel = 0
  · rw [eval_of_empty _ _ room hfuel, bind_of_error (eval_of_empty _ _ room hfuel)]
  cases room with
  | zero => rw [eval_of_full _ _ hfuel, bind_of_error (eval_of_full _ _ hfuel)]
  | succ room =>
    rw [eval_of_fuel _ _ room hfuel, bind_of_eq (eval_of_fuel _ _ room hfuel), bind_assoc]
    -- Both are opened in the same state, and what they do then is told by the kind.
    apply bind_congr rfl
    intro r t _
    cases r with
    | none => rfl
    | some out => rfl

/-- So the whole run differs in the value alone. -/
theorem run_flatten (requireEnd : Bool) :
    en.run requireEnd (.node { flattened := true, id := label } (.sequence children)) s =
      (en.run requireEnd (.node { id := label } (.sequence children)) >>= fun p =>
        Pure.pure (Prod.map Value.unwrapped id p)) s := by
  rw [run_eq, run_eq, bind_of_eq (eval_flatten en hen label children s en.limits.depth),
    bind_assoc, bind_assoc]
  apply bind_congr rfl
  intro r t hr
  cases r with
  | none => rfl
  | some out =>
    have hvalue : out.flatten.toValue true = (out.toValue true).unwrapped :=
      (eval_proper hr).flatten_toValue_unwrap
    exact congrFun (answer_map hvalue requireEnd) t

end Flags

/-- The values of the children of a sequence at the root make up a list, whose level the
root gives up if it has one item. If the sequence is flattened and the item is again a
list of one item, the level of that list is given up as well. -/
theorem flattened_root_unwrapped_twice (label : Option String) (children : List Element)
    (rules : RuleTable) (settings : Settings) (text : List Char) :
    let plain : Element := .node { id := label } (.sequence children)
    (∀ value stop, Grammar.evaluatePrefix ⟨plain, rules⟩ settings text = .ok (value, stop) →
      ∃ items c n height,
        All (Yields ⟨rules, settings.skip, 0⟩) children (Cursor.start text) (some (items, c)) n
          height ∧ value = (Value.list items).unwrapped ∧ stop = c.offset) ∧
    Grammar.evaluatePrefix ⟨plain.flatten, rules⟩ settings text =
      (Grammar.evaluatePrefix ⟨plain, rules⟩ settings text).map (Prod.map Value.unwrapped id) := by
  intro plain
  constructor
  · intro value stop hplain
    obtain ⟨out, c, n, height, hyields, rfl, rfl⟩ := Grammar.yields_of_evaluatePrefix hplain
    obtain ⟨inner, n', height', kind, ho, rfl, rfl⟩ := hyields.exists_kind
    change OfKind _ _ (.sequence children) _ _ _ _ at kind
    cases kind with
    | sequence all =>
      obtain ⟨⟨out', c'⟩, hmap, hdecorated⟩ := Option.map_eq_some_iff.mp ho.symm
      obtain ⟨⟨items, stop⟩, rfl, hlist⟩ := Option.map_eq_some_iff.mp hmap
      cases hlist
      cases hdecorated
      exact ⟨items, _, _, _, all, Contribution.toValue_list items, rfl⟩
  · have hrun := run_flatten ⟨rules, settings.limits, .silent⟩ rfl label children
      (Grammar.startState settings text ()) settings.requireEnd
    unfold Grammar.evaluatePrefix Grammar.evaluateWith
    dsimp only
    rw [show plain.flatten = .node { flattened := true, id := label } (.sequence children) from rfl,
      hrun]
    cases hplain : Engine.run ⟨rules, settings.limits, .silent⟩ settings.requireEnd plain
        (Grammar.startState settings text ()) with
    | ok r t =>
      rw [bind_of_ok hplain]
      rfl
    | error e t =>
      rw [bind_of_error hplain]
      rfl

/-- A letter in a sequence of its own comes out of both lists. -/
theorem flattened_letter :
    let plain : Element := .sequence [.sequence [.literal "a"]]
    Grammar.evaluatePrefix ⟨plain.flatten, []⟩ {} ['a'] =
      (Grammar.evaluatePrefix ⟨plain, []⟩ {} ['a']).map (Prod.map Value.unwrapped id) :=
  (flattened_root_unwrapped_twice none [.sequence [.literal "a"]] [] {} ['a']).2

/-- So the flattened sequence has the text for its value, and the sequence a list of it. -/
theorem flattened_letter_differs :
    let plain : Element := .sequence [.sequence [.literal "a"]]
    ((Grammar.evaluatePrefix ⟨plain, []⟩ {} ['a']).map
        (Prod.map (· == .list [.text "a"]) id) = .ok (true, 1)) ∧
      ((Grammar.evaluatePrefix ⟨plain.flatten, []⟩ {} ['a']).map
        (Prod.map (· == .text "a") id) = .ok (true, 1)) ∧
      Grammar.parse ⟨plain.flatten, []⟩ ['a'] ≠ Grammar.parse ⟨plain, []⟩ ['a'] := by
  refine ⟨by decide +kernel, by decide +kernel, ?_⟩
  intro hsame
  have htext := congrArg (Except.map fun v : Value => v == .text "a") hsame
  revert htext
  decide +kernel

end Peg
