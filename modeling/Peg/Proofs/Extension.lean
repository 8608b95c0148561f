import Peg.Grammar.Combinator
import Peg.Proofs.Effort

/-!
Extended sequences and choices mean what nested ones do.

`plus` and `orElse` add to the node on their left in place of making a new one
above it. That saves an evaluation and a level of depth, and a sequence is
rolled back at once and not level by level; nothing else changes.
-/
namespace Peg

open Eval

variable {σ : Type}

/-- The alternatives behind `xs` have their turn if none of `xs` matches. -/
theorem firstOf_append (sub : Sub σ) (xs ys : List Element) :
    Engine.firstOf sub (xs ++ ys) = (do
      match ← Engine.firstOf sub xs with
      | some out => return some out
      | none => Engine.firstOf sub ys) := by
  induction xs with
  | nil => rfl
  | cons e xs ih =>
    simp only [List.cons_append, Engine.firstOf, bind_assoc]
    congr 1
    funext r
    cases r with
    | some out => rfl
    | none => exact ih

theorem allOf_cons (sub : Sub σ) (items : List Value) (e : Element) (rest : List Element) :
    Engine.allOf sub items (e :: rest) = (do
      match ← sub e with
      | some out => Engine.allOf sub (out.items.reverse ++ items) rest
      | none => return none) :=
  rfl

/-- The children behind `xs` add to what all of `xs` contribute. -/
theorem allOf_append (sub : Sub σ) (items : List Value) (xs ys : List Element) :
    Engine.allOf sub items (xs ++ ys) = (do
      match ← Engine.allOf sub items xs with
      | some values => Engine.allOf sub values.reverse ys
      | none => return none) := by
  induction xs generalizing items with
  | nil => simp only [List.nil_append, Engine.allOf, pure_bind, List.reverse_reverse]
  | cons e xs ih =>
    simp only [List.cons_append, Engine.allOf, bind_assoc]
    congr 1
    funext r
    cases r with
    | some out => exact ih _
    | none => rfl

namespace Element

theorem eq_alternation_of_isPlain {e : Element} (h : e.isPlainAlternation = true) :
    ∃ xs, e = alternation xs := by
  obtain ⟨d, k⟩ := e
  unfold isPlainAlternation at h
  rw [Bool.and_eq_true] at h
  obtain ⟨hkind, hdecor⟩ := h
  obtain rfl : d = {} := eq_of_beq hdecor
  cases k with
  | alternation xs => exact ⟨xs, rfl⟩
  | _ => cases hkind

theorem eq_sequence_of_isPlain {e : Element} (h : e.isPlainSequence = true) :
    ∃ xs, e = sequence xs := by
  obtain ⟨d, k⟩ := e
  unfold isPlainSequence at h
  rw [Bool.and_eq_true] at h
  obtain ⟨hkind, hdecor⟩ := h
  obtain rfl : d = {} := eq_of_beq hdecor
  cases k with
  | sequence xs => exact ⟨xs, rfl⟩
  | _ => cases hkind

end Element

/-- A flattened list gives its items to its parent, even if it is only one. -/
theorem Contribution.items_flatten (items : List Value) :
    (Contribution.one (.list items)).flatten.items = items := by
  match items with
  | [] => rfl
  | [_] => rfl
  | _ :: _ :: _ => rfl

section Beside

variable {en : Engine σ} {room room' : Nat} {s t : State σ}

/-- A choice tries the alternatives of a choice inside it where that one stands. -/
theorem alternation_extended (hst : Peer s t) (xs : List Element) (b : Element) :
    Beside Eq (en.eval room (.alternation (xs ++ [b]))) s
      (en.eval room' (.alternation [Element.alternation xs, b])) t := by
  refine Beside.of_evalKind hst rfl ?_
  intro below below' u v _ huv
  change Beside Eq (Engine.firstOf (en.eval below) (xs ++ [b])) u
    (Engine.firstOf (en.eval below') [Element.alternation xs, b]) v
  rw [firstOf_append]
  apply Beside.open_right
  intro below'' w _ hvw
  have hfirst : Beside Eq (Engine.firstOf (en.eval below) xs) u
      (en.evalKind (en.eval below'') (Element.alternation xs)) w :=
    firstOf_beside (eval_beside en below below'') (huv.trans hvw) xs
  apply hfirst.bind
  rintro r _ u v rfl huv
  apply Beside.right
  apply close_leads
  intro v' hvv'
  cases r with
  | some out => exact Beside.pure rfl (huv.trans hvv')
  | none => exact firstOf_beside (eval_beside en below below') (huv.trans hvv') [b]

/-- A sequence takes the items of a flattened sequence inside it for its own. If
that one fails, both go back, one after the other, to the place where both
started. -/
theorem sequence_extended (hst : Peer s t) (xs : List Element) (b : Element) :
    Beside Eq (en.eval room (.sequence (xs ++ [b]))) s
      (en.eval room' (.sequence [(Element.sequence xs).flatten, b])) t := by
  rw [← bind_pure (en.eval room _), ← bind_pure (en.eval room' _)]
  apply Beside.open_sequence_left
  intro below u hsu
  apply Beside.open_sequence_right
  intro below' v htv
  rw [allOf_append, allOf_cons (en.eval below'), bind_assoc, bind_assoc]
  apply Beside.open_sequence_right
  intro below'' w hvw
  have huw : Peer u w := hsu.symm.trans (hst.trans (htv.trans hvw))
  apply (allOf_beside (eval_beside en below below'') huw xs []).bind
  rintro r _ u v' rfl huv
  cases r with
  | none =>
    -- The inner sequence has gone back already when the outer one does.
    apply Beside.right
    apply leave_none_leads
    intro w hw _
    apply Beside.leave_none (huv.toApart.trans hw) hst.cursor
    intro u v huv
    exact Beside.pure rfl huv
  | some items =>
    apply Beside.right
    apply leave_some_leads
    intro w hw
    change Beside Eq (Engine.allOf (en.eval below) items.reverse [b] >>= _) u
      (Engine.allOf (en.eval below') ((Contribution.one (.list items)).flatten.items.reverse ++ [])
        [b] >>= _) w
    rw [Contribution.items_flatten, List.append_nil]
    apply (allOf_beside (eval_beside en below below') (huv.trans hw) [b] items.reverse).bind
    rintro r _ u v rfl huv
    apply Beside.leave huv hst.cursor r
    intro u v huv
    exact Beside.pure rfl huv

theorem orElse_beside (hst : Peer s t) (a b : Element) :
    Beside Eq (en.eval room (a.orElse b)) s (en.eval room' (.alternation [a, b])) t := by
  unfold Element.orElse
  by_cases hplain : a.isPlainAlternation = true
  · rw [if_pos hplain]
    obtain ⟨xs, rfl⟩ := Element.eq_alternation_of_isPlain hplain
    exact alternation_extended hst xs b
  · rw [if_neg hplain]
    exact eval_beside en room room' _ s t hst

theorem plus_beside (hst : Peer s t) (a b : Element) :
    Beside Eq (en.eval room (a.plus b)) s
      (en.eval room' (.sequence [if a.isPlainSequence then a.flatten else a, b])) t := by
  unfold Element.plus
  by_cases hplain : a.isPlainSequence = true
  · rw [if_pos hplain, if_pos hplain]
    obtain ⟨xs, rfl⟩ := Element.eq_sequence_of_isPlain hplain
    exact sequence_extended hst xs b
  · rw [if_neg hplain, if_neg hplain]
    exact eval_beside en room room' _ s t hst

end Beside

/-- Operators extend in place without a change of meaning. A choice extended by
`orElse` does what the choice between the two operands does, and a sequence
extended by `plus` what the sequence of the two operands does, where the left
one is flattened if it is a sequence without decorations: the values, the places
where matches end and the errors are the same. -/
theorem operators_extend_in_place (a b : Element) (rules : RuleTable) (settings : Settings)
    (text : List Char) :
    (Grammar.WithinLimits ⟨a.orElse b, rules⟩ settings text →
        Grammar.WithinLimits ⟨.alternation [a, b], rules⟩ settings text →
        Grammar.evaluatePrefix ⟨a.orElse b, rules⟩ settings text =
          Grammar.evaluatePrefix ⟨.alternation [a, b], rules⟩ settings text) ∧
      (Grammar.WithinLimits ⟨a.plus b, rules⟩ settings text →
        Grammar.WithinLimits ⟨.sequence [if a.isPlainSequence then a.flatten else a, b], rules⟩
          settings text →
        Grammar.evaluatePrefix ⟨a.plus b, rules⟩ settings text =
          Grammar.evaluatePrefix ⟨.sequence [if a.isPlainSequence then a.flatten else a, b], rules⟩
            settings text) := by
  constructor
  · refine Grammar.evaluatePrefix_eq rfl ?_
    intro en room s t hst
    exact orElse_beside hst a b
  · refine Grammar.evaluatePrefix_eq rfl ?_
    intro en room s t hst
    exact plus_beside hst a b

/-- Both operators at work on nodes that they extend. -/
theorem extended_digits :
    let digit := (Element.literal "0").orElse (.literal "1")
    let pair := digit.plus digit
    Grammar.evaluatePrefix ⟨digit.orElse (.literal "2"), []⟩ {} ['2'] =
        Grammar.evaluatePrefix ⟨.alternation [digit, .literal "2"], []⟩ {} ['2'] ∧
      Grammar.evaluatePrefix ⟨pair.plus digit, []⟩ {} ['0', '1', '1'] =
        Grammar.evaluatePrefix ⟨.sequence [pair.flatten, digit], []⟩ {} ['0', '1', '1'] := by
  intro digit pair
  have hwithin : ∀ g : Grammar, ∀ text, (g.evaluatePrefix {} text).isOk = true →
      g.WithinLimits {} text := fun _ _ h => .of_isOk h
  constructor
  · apply (operators_extend_in_place digit (.literal "2") [] {} ['2']).1
    · exact hwithin _ _ (by decide +kernel)
    · exact hwithin _ _ (by decide +kernel)
  · apply (operators_extend_in_place pair digit [] {} ['0', '1', '1']).2
    · exact hwithin _ _ (by decide +kernel)
    · exact hwithin _ _ (by decide +kernel)

end Peg
