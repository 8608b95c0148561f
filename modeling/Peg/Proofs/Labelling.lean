import Peg.Proofs.Decoration
import Peg.Proofs.WholeText

/-!
What a label changes.

A labelled copy of an element differs from it in what it is called, and so in
what is said to be expected. A rule is not copied but wrapped, and the wrapper
takes over its flags: a rule that is flattened is flattened twice when it has
got a label, so that one more list of a single item is lost.
-/
namespace Peg

open Eval

variable {σ : Type}

/-- The item of a list of one item; any other value as it is. -/
def Value.unwrapped : Value → Value
  | .list [v] => v
  | v => v

/-- Whether a label on the element makes it flatten its result once more. -/
def Element.flattensAgain (e : Element) : Bool :=
  e.isRule && e.isFlattened && !e.isStripped

/-- The value of an element under a label, from the value without it. -/
def Element.labelledValue (e : Element) (v : Value) : Value :=
  if e.flattensAgain then v.unwrapped else v

/-- An element that is no rule is copied, and the label goes on the copy. -/
theorem Element.withId_of_not_rule {e : Element} (he : e.isRule = false) (id : String) :
    e.withId id = .node { e.decor with id := some id } e.kind := by
  obtain ⟨d, k⟩ := e
  cases k with
  | rule key name body => cases he
  | _ => rfl

/-- A kind is the same as itself, if the relation leaves no child out. -/
theorem Kind.Lift.refl {α : Type} {R : α → α → Prop} (hR : ∀ a, R a a) (k : Kind α) :
    Kind.Lift R k k := by
  have hall : ∀ cs : List α, List.Forall₂ R cs cs := fun cs =>
    List.forall₂_same.mpr fun a _ => hR a
  cases k with
  | literal text => exact .literal text
  | pattern regex capture => exact .pattern regex capture
  | sequence cs => exact .sequence (hall cs)
  | alternation cs => exact .alternation (hall cs)
  | repetition c min max => exact .repetition (hR c) min max
  | separated i s min max => exact .separated (hR i) (hR s) min max
  | convert c name f => exact .convert (hR c) name f
  | endOfInput => exact .endOfInput
  | rule key name body => exact .rule key key name (hR body)
  | backref name target => exact .backref name target target

/-- The elements of a grammar and those of the same grammar with a label on its
root. -/
inductive Labelled (e : Element) (id : String) : Bool → Element → Element → Prop
  | root (inner : Bool) : Labelled e id inner (.node { e.decor with id := some id } e.kind) e
  | same (inner : Bool) (x : Element) : Labelled e id inner x x

theorem Labelled.pairing (e : Element) (id : String) (rules : RuleTable) :
    Grammar.Pairing ⟨.node { e.decor with id := some id } e.kind, rules⟩ ⟨e, rules⟩ true
      (fun inner => Decor.Like (true || inner) false) (Labelled e id) where
  root := .root false
  decor := by
    intro inner x y hxy
    cases hxy with
    | root => exact ⟨fun _ => rfl, fun _ => rfl, nofun⟩
    | same => exact Decor.Like.refl _ _ _
  kind := by
    intro inner x y hxy
    cases hxy with
    | root => exact Kind.Lift.refl (fun x => .same _ x) e.kind
    | same => exact Kind.Lift.refl (fun x => .same _ x) x.kind
  rule := by
    intro inner x y name name' target target' hxy hx hy
    have hkind : x.kind = y.kind := by
      cases hxy with
      | root => rfl
      | same => rfl
    have htarget : target = target' := by
      have hback : (Kind.backref name target : Kind Element) = .backref name' target' :=
        hx.symm.trans (hkind.trans hy)
      injection hback
    subst htarget
    cases rules.lookup target with
    | none => exact .none
    | some x => exact .some (.same _ x)

/-- A label on a copy changes nothing but what is expected. -/
theorem evaluatePrefix_labelled (e : Element) (id : String) (rules : RuleTable)
    (settings : Settings) (text : List Char) :
    (Grammar.evaluatePrefix ⟨.node { e.decor with id := some id } e.kind, rules⟩ settings
        text).mapError ParseError.unlabelled =
      (Grammar.evaluatePrefix ⟨e, rules⟩ settings text).mapError ParseError.unlabelled := by
  have hsame : SameResult false true _ _ :=
    (Labelled.pairing e id rules).evaluatePrefix_alike false true settings text
  exact hsame.mapError_eq

namespace Contribution

/-- A contribution that is flattened has the item for its value, where it had a list
of one item. -/
theorem Proper.flatten_toValue {out : Contribution} (h : out.Proper) :
    out.flatten.toValue false = (out.toValue false).unwrapped := by
  cases out with
  | nothing => rfl
  | one v =>
    cases v with
    | list items =>
      match items with
      | [] => rfl
      | [w] => exact toValue_one w
      | _ :: _ :: _ => rfl
    | _ => rfl
  | splice vs =>
    match vs with
    | [] => rfl
    | [v] => exact absurd rfl (h v)
    | _ :: _ :: _ => rfl

/-- What the flags of an element do if they act once more, on a wrapper of it. -/
theorem Proper.decorate_again {out : Contribution} (h : out.Proper) (d : Decor)
    (id : Option String) :
    ((out.decorate d).decorate { d with id := id }).toValue false =
      if d.flattened && !d.stripped then ((out.decorate d).toValue false).unwrapped
      else (out.decorate d).toValue false := by
  have hproper : (out.decorate d).Proper := h.decorate d
  have hflags : (out.decorate d).decorate { d with id := id } = (out.decorate d).decorate d := rfl
  rw [hflags]
  generalize hinner : out.decorate d = inner at hproper
  unfold Contribution.decorate at hinner ⊢
  cases hstripped : d.stripped with
  | true =>
    rw [hstripped] at hinner
    subst hinner
    cases d.flattened with
    | true => rfl
    | false => rfl
  | false =>
    cases d.flattened with
    | true => exact hproper.flatten_toValue
    | false => rfl

end Contribution

/-- A wrapped rule runs beside the rule: both come to what the body comes to, and
the wrapper decorates it once more. -/
theorem run_wrapper_beside (en : Engine σ) (s : State σ) (requireEnd : Bool) (d : Decor)
    (label : Option String) (key : Option Nat) (name : String) (body : Element) :
    let e : Element := .node d (.rule key name body)
    Beside (fun p q => p = q.map e.labelledValue id)
      (en.run requireEnd (.node { d with id := label } (.rule none name e))) s
      (en.run requireEnd e) s := by
  intro e
  rw [run_eq, run_eq]
  -- The wrapper is opened first, and the rule inside it next.
  apply Beside.open_left
  intro below u _ hsu
  apply Beside.open_left
  intro below' v _ huv
  apply Beside.open_right
  intro below'' w _ hsw
  have hvw : Peer v w := (hsu.trans huv).symm.trans hsw
  apply (eval_beside en below' below'' body v w hvw).bind_of_ok
  rintro r _ u' w' hrun _ rfl huw
  apply Beside.left
  apply close_leads
  intro v hv
  apply Beside.close
  intro x y hvx hwy
  have hxy : Peer x y := (hv.trans hvx).symm.trans (huw.trans hwy)
  have hr : Option.Rel (fun out out' : Contribution =>
      out.toValue false = e.labelledValue (out'.toValue false))
      ((r.map (·.decorate d)).map (·.decorate { d with id := label }))
      (r.map (·.decorate d)) := by
    cases r with
    | none => exact .none
    | some out => exact .some ((eval_proper hrun).decorate_again d label)
  apply (answer_beside (Q := fun v v' => v = e.labelledValue v') requireEnd hr hxy).imp
  intro p q hpq
  exact Prod.ext hpq.1 hpq.2

/-- A label changes what is said to be expected. It changes a value only if the
element is a flattened rule, which is flattened again: a list of one item gives
way to the item. -/
theorem label_flattens_rule_again (e : Element) (label : String) (rules : RuleTable)
    (settings : Settings) (text : List Char)
    (h : Grammar.WithinLimits ⟨e.withId label, rules⟩ settings text)
    (h' : Grammar.WithinLimits ⟨e, rules⟩ settings text) :
    (Grammar.evaluatePrefix ⟨e.withId label, rules⟩ settings text).mapError
        ParseError.unlabelled =
      ((Grammar.evaluatePrefix ⟨e, rules⟩ settings text).map
        (Prod.map e.labelledValue id)).mapError ParseError.unlabelled := by
  by_cases hrule : e.isRule = true
  · obtain ⟨d, k⟩ := e
    cases k with
    | rule key name body =>
      have hruns := run_wrapper_beside ⟨rules, settings.limits, .silent⟩
        (Grammar.startState settings text ()) settings.requireEnd d (some label) key name body
      let e : Element := .node d (.rule key name body)
      have hmap : (Grammar.evaluatePrefix ⟨e.withId label, rules⟩ settings text).map id =
          (Grammar.evaluatePrefix ⟨e, rules⟩ settings text).map (Prod.map e.labelledValue id) :=
        Grammar.map_evaluatePrefix_eq id (Prod.map e.labelledValue id) hruns h h'
      rw [Except.map_id] at hmap
      exact congrArg (Except.mapError ParseError.unlabelled) hmap
    | _ => cases hrule
  · have hcopy := Bool.eq_false_iff.mpr hrule
    have hkeeps : e.labelledValue = id := by
      funext v
      unfold Element.labelledValue Element.flattensAgain
      rw [hcopy]
      rfl
    rw [hkeeps, Prod.map_id, Except.map_id, Element.withId_of_not_rule hcopy]
    exact evaluatePrefix_labelled e label rules settings text

namespace Wrapped

/-- A rule whose value is a list of one list of one text. -/
def rule : Element :=
  .ofKind (.rule (some 0) "r" (.sequence [.sequence [.literal "a"]]))

def grammar (root : Element) : Grammar :=
  ⟨root, [(0, rule)]⟩

end Wrapped

/-- A flattened rule gives up the inner list when it gets a label. -/
theorem label_unwraps_flattened_rule :
    ((Wrapped.grammar (Wrapped.rule.flatten.withId "x")).evaluatePrefix {} ['a']).mapError
        ParseError.unlabelled =
      (((Wrapped.grammar Wrapped.rule.flatten).evaluatePrefix {} ['a']).map
        (Prod.map Wrapped.rule.flatten.labelledValue id)).mapError ParseError.unlabelled := by
  apply label_flattens_rule_again
  · exact .of_isOk (by decide +kernel)
  · exact .of_isOk (by decide +kernel)

/-- So a label is not without influence on the value of a rule: it is the text where
without the label it is a list of the text. -/
theorem label_changes_value :
    let labelled := Wrapped.rule.flatten.withId "x"
    (((Wrapped.grammar Wrapped.rule.flatten).evaluatePrefix {} ['a']).map
        (Prod.map (· == .list [.text "a"]) id) = .ok (true, 1)) ∧
      (((Wrapped.grammar labelled).evaluatePrefix {} ['a']).map
        (Prod.map (· == .text "a") id) = .ok (true, 1)) ∧
      ((Wrapped.grammar labelled).evaluatePrefix {} ['a']).mapError ParseError.unlabelled ≠
        ((Wrapped.grammar Wrapped.rule.flatten).evaluatePrefix {} ['a']).mapError
          ParseError.unlabelled := by
  refine ⟨by decide +kernel, by decide +kernel, ?_⟩
  intro hsame
  have htext := congrArg (Except.map fun p : Value × Nat => p.1 == .text "a") hsame
  revert htext
  decide +kernel

end Peg
