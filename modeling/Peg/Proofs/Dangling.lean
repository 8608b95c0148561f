import Peg.Proofs.Assembly
import Peg.Proofs.Outcome

/-!
Back-references that never dangle.

A run looks a rule up when it comes to a back-reference, and it comes only to
elements within its root or within a rule that it has looked up. If every
back-reference within these finds its rule, the run finds them all.
-/
namespace Peg

namespace Eval

variable {σ α β : Type} {P : ParseError → Prop}

/-- Whatever the state, the step ends in no error but those of `P`. -/
def Raises (P : ParseError → Prop) (m : Eval σ α) : Prop :=
  ∀ s, Leads m s (fun _ _ => True) fun e _ => P e

theorem Raises.bind {m : Eval σ β} {k : β → Eval σ α} (hm : Raises P m)
    (hk : ∀ b, Raises P (k b)) : Raises P (m >>= k) := by
  intro s
  rw [leads_bind]
  exact (hm s).imp fun b t _ => hk b t

theorem Raises.pure (a : α) : Raises P (Pure.pure a : Eval σ α) :=
  fun _ => trivial

theorem Raises.throw {e : ParseError} (h : P e) : Raises P (MonadExcept.throw e : Eval σ α) :=
  fun _ => h

theorem Raises.get : Raises P (MonadState.get : Eval σ (State σ)) :=
  fun _ => trivial

theorem Raises.modify (f : State σ → State σ) : Raises P (modify f : Eval σ PUnit) :=
  fun _ => trivial

theorem Raises.cursor : Raises P (Eval.cursor : Eval σ Cursor) :=
  fun _ => trivial

theorem Raises.skippedCursor : Raises P (Eval.skippedCursor : Eval σ Cursor) :=
  fun _ => trivial

theorem Raises.rewind (tracer : Tracer σ) (mark : Cursor) : Raises P (Eval.rewind tracer mark) :=
  .bind .cursor fun _ => .bind (.modify _) fun _ => .modify _

theorem Raises.ofMarks (h : ∀ e, P (.scanner e)) (r : Except ScanError Scanner) :
    Raises P (Eval.ofMarks r : Eval σ Unit) := by
  cases r with
  | ok scanner => exact .modify _
  | error e => exact .throw (h e)

theorem Raises.spend (limits : Limits) (h : P (.fuelExhausted limits.fuel)) :
    Raises P (Eval.spend limits : Eval σ Unit) := by
  refine .bind .get fun s => ?_
  split
  · exact .throw h
  · exact fun _ => trivial

end Eval

namespace Engine

open Eval

variable {σ : Type} {P : ParseError → Prop} {sub : Sub σ}

theorem allOf_raises {es : List Element} (h : ∀ e ∈ es, Raises P (sub e)) (items : List Value) :
    Raises P (allOf sub items es) := by
  induction es generalizing items with
  | nil => exact .pure _
  | cons e rest ih =>
    obtain ⟨hfirst, hrest⟩ := List.forall_mem_cons.mp h
    refine .bind hfirst fun r => ?_
    cases r with
    | none => exact .pure _
    | some out => exact ih hrest _

theorem sequence_raises (en : Engine σ) {children : List Element}
    (h : ∀ e ∈ children, Raises P (sub e)) (hmarks : ∀ e, P (.scanner e)) :
    Raises P (en.sequence sub children) := by
  refine .bind .get fun s => .bind (.modify _) fun _ => .bind (allOf_raises h []) fun r => ?_
  cases r with
  | some items => exact .bind .get fun _ => .bind (.ofMarks hmarks _) fun _ => .pure _
  | none =>
    refine .bind .cursor fun _ => .bind .get fun _ => .bind (.ofMarks hmarks _) fun _ => ?_
    exact .bind (.modify _) fun _ => .pure _

theorem firstOf_raises {es : List Element} (h : ∀ e ∈ es, Raises P (sub e)) :
    Raises P (firstOf sub es) := by
  induction es with
  | nil => exact .pure _
  | cons e rest ih =>
    obtain ⟨hfirst, hrest⟩ := List.forall_mem_cons.mp h
    refine .bind hfirst fun r => ?_
    cases r with
    | none => exact ih hrest
    | some out => exact .pure _

theorem rounds_raises {child : Element} (h : Raises P (sub child)) (max : Option Nat)
    (bound count : Nat) (items : List Value) :
    Raises P (rounds sub child max bound count items) := by
  induction bound generalizing count items with
  | zero => exact .pure _
  | succ bound ih =>
    unfold rounds
    split
    · refine .bind .cursor fun mark => .bind h fun r => ?_
      cases r with
      | none => exact .pure _
      | some out =>
        refine .bind .cursor fun stop => ?_
        split
        · exact ih _ _
        · exact .bind (.modify _) fun _ => .pure _
    · exact .pure _

theorem enough_raises (en : Engine σ) (start : Cursor) (min : Nat) (result : Nat × List Value) :
    Raises P (en.enough start min result) := by
  unfold enough
  split
  · exact .bind (.rewind _ _) fun _ => .pure _
  · exact .pure _

theorem moreItems_raises (en : Engine σ) {item separator : Element} (hitem : Raises P (sub item))
    (hseparator : Raises P (sub separator)) (max : Option Nat) (bound count : Nat)
    (items : List Value) : Raises P (en.moreItems sub item separator max bound count items) := by
  induction bound generalizing count items with
  | zero => exact .pure _
  | succ bound ih =>
    unfold moreItems
    split
    · refine .bind .cursor fun mark => .bind hseparator fun r => ?_
      cases r with
      | none => exact .pure _
      | some sep =>
        refine .bind hitem fun r => ?_
        cases r with
        | none => exact .bind (.rewind _ _) fun _ => .pure _
        | some out =>
          refine .bind .cursor fun stop => ?_
          split
          · exact ih _ _
          · exact .bind (.rewind _ _) fun _ => .pure _
    · exact .pure _

theorem firstItem_raises {item : Element} (h : Raises P (sub item)) (max : Option Nat) :
    Raises P (firstItem sub item max) := by
  unfold firstItem
  split
  · exact .pure _
  · refine .bind .cursor fun mark => .bind h fun r => ?_
    cases r with
    | none => exact .pure _
    | some out =>
      refine .bind .cursor fun stop => ?_
      split
      · exact .pure _
      · exact .bind (.modify _) fun _ => .pure _

theorem separated_raises (en : Engine σ) {item separator : Element} (hitem : Raises P (sub item))
    (hseparator : Raises P (sub separator)) (min : Nat) (max : Option Nat) :
    Raises P (en.separated sub item separator min max) := by
  refine .bind .get fun s => .bind (firstItem_raises hitem max) ?_
  rintro ⟨count, items⟩
  dsimp only
  split
  · exact enough_raises en _ _ _
  · exact .bind (moreItems_raises en hitem hseparator _ _ _ _) fun _ => enough_raises en _ _ _

theorem literal_raises (e : Element) (text : String) : Raises P (literal (σ := σ) e text) := by
  refine .bind .get fun s => ?_
  cases s.scanner.scanLiteral? text with
  | some scanner => exact .bind (.modify _) fun _ => .pure _
  | none => exact .bind (.modify _) fun _ => .pure _

theorem pattern_raises (e : Element) (regex : Regex) (capture : Capture) :
    Raises P (pattern (σ := σ) e regex capture) := by
  refine .bind .get fun s => ?_
  cases s.scanner.scanRegex? regex with
  | some found => exact .bind (.modify _) fun _ => .pure _
  | none => exact .bind (.modify _) fun _ => .pure _

theorem endOfInput_raises (e : Element) : Raises P (endOfInput (σ := σ) e) := by
  refine .bind .get fun s => ?_
  dsimp only
  split
  · exact .bind (.modify _) fun _ => .pure _
  · exact .bind (.modify _) fun _ => .pure _

theorem convert_raises (e : Element) {child : Element} (h : Raises P (sub child))
    (f : String → Option Value) : Raises P (convert sub e child f) := by
  refine .bind .cursor fun mark => .bind (.modify _) fun _ => .bind h fun r => ?_
  refine .bind (.modify _) fun _ => .bind .get fun s => ?_
  split
  · exact .pure _
  · exact .bind (.modify _) fun _ => .bind .skippedCursor fun _ => .bind (.modify _) fun _ =>
      .pure _

/-- The errors of an element that is no back-reference are those of its children. -/
theorem evalKind_raises (en : Engine σ) {e : Element} (h : ∀ c ∈ e.children, Raises P (sub c))
    (hbackref : ∀ name target, e.kind = .backref name target →
      Raises P (en.backref sub name target))
    (hmarks : ∀ e, P (.scanner e)) : Raises P (en.evalKind sub e) := by
  obtain ⟨decor, kind⟩ := e
  cases kind with
  | literal text => exact literal_raises _ text
  | pattern regex capture => exact pattern_raises _ regex capture
  | sequence children => exact sequence_raises en h hmarks
  | alternation children => exact firstOf_raises h
  | repetition child min max =>
    refine .bind .get fun s => .bind (rounds_raises (h child List.mem_cons_self) _ _ _ _) ?_
    exact fun _ => enough_raises en _ _ _
  | separated item separator min max =>
    exact separated_raises en (h item List.mem_cons_self)
      (h separator (List.mem_cons_of_mem _ List.mem_cons_self)) min max
  | convert child name f => exact convert_raises _ (h child List.mem_cons_self) f
  | endOfInput => exact endOfInput_raises _
  | rule key name body => exact h body List.mem_cons_self
  | backref name target => exact hbackref name target rfl

/-- Besides those of its kind, an evaluation with room left only has the error of an
empty tank. -/
theorem eval_succ_raises {en : Engine σ} {room : Nat} {e : Element}
    (hfuel : P (.fuelExhausted en.limits.fuel)) (hkind : Raises P (en.evalKind (en.eval room) e)) :
    Raises P (en.eval (room + 1) e) := by
  refine .bind (.spend _ hfuel) fun _ => .bind .cursor fun entry => .bind (.modify _) fun _ => ?_
  refine .bind hkind fun r => ?_
  cases r with
  | none => exact .bind (.modify _) fun _ => .pure _
  | some out => exact .bind (.modify _) fun _ => .pure _

theorem noMatch_raises {α : Type}
    (hmiss : ∀ position line column expected, P (.noMatch position line column expected)) :
    Raises P (noMatch : Eval σ α) :=
  .bind .get fun _ => .throw (hmiss _ _ _ _)

/-- A whole run adds that there may be no match. -/
theorem run_raises {en : Engine σ} {root : Element}
    (hmiss : ∀ position line column expected, P (.noMatch position line column expected))
    (hroot : Raises P (en.eval en.limits.depth root)) (requireEnd : Bool) :
    Raises P (en.run requireEnd root) := by
  have hend : Raises P (demandEnd : Eval σ Unit) := by
    refine .bind .get fun s => .bind (.modify _) fun _ => ?_
    split
    · exact .pure _
    · -- More text is left, and the run fails as without a match.
      exact .bind (.modify _) fun _ => noMatch_raises hmiss
  refine .bind hroot fun r => ?_
  cases r with
  | none => exact noMatch_raises hmiss
  | some out =>
    refine .bind .cursor fun stop => ?_
    split
    · exact .bind hend fun _ => .pure _
    · exact .pure _

end Engine

/-- The error of a back-reference whose rule is not held any more. -/
def ParseError.IsDangling (e : ParseError) : Prop :=
  ∃ name, e = .danglingRule name

/-- Every back-reference within the element finds a rule. -/
def RuleTable.Resolves (rules : RuleTable) (e : Element) : Prop :=
  ∀ name key, e.Refers name key → ∃ r, rules.lookup key = some r

namespace Engine

open Eval

variable {σ : Type} {en : Engine σ}

theorem backref_raises {sub : Sub σ} {P : ParseError → Prop} {name : String} {target : Nat}
    {r : Element} (hlookup : en.rules.lookup target = some r) (h : Raises P (sub r)) :
    Raises P (en.backref sub name target) := by
  unfold backref
  rw [hlookup]
  exact h

/-- An element whose back-references find their rules never dangles, if those of
the rules find theirs. -/
theorem eval_never_dangles (hrules : ∀ key r, en.rules.lookup key = some r → en.rules.Resolves r)
    (room : Nat) (e : Element) (he : en.rules.Resolves e) :
    Raises (fun fault => ¬ fault.IsDangling) (en.eval room e) := by
  -- On the levels left, for the rule of a back-reference is no part of the element.
  induction room generalizing e with
  | zero => exact .bind (.spend _ nofun) fun _ => .throw nofun
  | succ room ih =>
    refine eval_succ_raises nofun (en.evalKind_raises ?_ ?_ fun _ => nofun)
    · intro c hc
      exact ih c fun name key hrefers => he name key (hrefers.mono (.of_child hc))
    · intro name target hkind
      obtain ⟨decor, kind⟩ := e
      cases hkind
      obtain ⟨r, hlookup⟩ := he name target ⟨decor, .self _⟩
      exact backref_raises hlookup (ih r (hrules target r hlookup))

theorem run_never_dangles (hrules : ∀ key r, en.rules.lookup key = some r → en.rules.Resolves r)
    (requireEnd : Bool) (root : Element) (hroot : en.rules.Resolves root) :
    Raises (fun fault => ¬ fault.IsDangling) (en.run requireEnd root) :=
  run_raises (fun _ _ _ _ => nofun) (eval_never_dangles hrules _ root hroot) requireEnd

end Engine

/-- The grammar that starts with `root` while it and the `others` are held. -/
def Grammar.ofHeld (root : Part) (others : List Part) : Grammar :=
  ⟨root.element, Part.rulesAmong (root :: others)⟩

/-- The rule that a back-reference leads to stands within something that is
held, and it is found there by its key. -/
def Part.KeepsTarget (heap : Heap) (held : List Part) (name : String) (key : Nat) : Prop :=
  ∃ decor body, let target := Element.node decor (.rule (some key) name body)
    heap key = some target ∧ (Part.rulesAmong held).lookup key = some target ∧
      ∃ q ∈ held, target.Within q.element

section

variable {heap : Heap} {held : List Part}

theorem Part.keepsTarget_of_assembled (h : ∀ p ∈ held, Assembled heap [] p) {p : Part}
    (hp : p ∈ held) {name : String} {key : Nat} (hrefers : p.element.Refers name key) :
    KeepsTarget heap held name key := by
  have haccounts := (h p hp).owned.accounts
  -- No rule is still being made around what is held.
  rcases haccounts.target name key hrefers with hopen | ⟨decor, body, hwithin⟩
  · cases hopen
  · obtain ⟨hheap, hhas⟩ := haccounts.listed key _ rfl hwithin
    refine ⟨decor, body, hheap, ?_, p, hp, hwithin⟩
    apply RuleTable.lookup_of_has (has_rulesAmong hp hhas)
    -- Whatever else the table has for the key is the rule with this key too.
    intro r hr
    obtain ⟨q, hq, hmem⟩ := mem_rulesAmong hr
    have hsame := ((h q hq).owned.accounts.held key r hmem).1
    rw [hheap] at hsame
    cases hsame
    rfl

theorem Part.resolves_of_assembled (h : ∀ p ∈ held, Assembled heap [] p) {p : Part}
    (hp : p ∈ held) {e : Element} (he : e.Within p.element) :
    (rulesAmong held).Resolves e := by
  intro name key hrefers
  obtain ⟨decor, body, -, hlookup, -⟩ := keepsTarget_of_assembled h hp (hrefers.mono he)
  exact ⟨_, hlookup⟩

/-- Whatever is in the table stands within something that is held. -/
theorem Part.within_of_lookup (h : ∀ p ∈ held, Assembled heap [] p) {key : Nat} {r : Element}
    (hr : (rulesAmong held).lookup key = some r) : ∃ p ∈ held, r.Within p.element := by
  obtain ⟨before, after, htable, -⟩ := List.lookup_eq_some_iff.mp hr
  have hmem : (key, r) ∈ rulesAmong held := by simp [htable]
  obtain ⟨p, hp, hrule⟩ := mem_rulesAmong hmem
  exact ⟨p, hp, ((h p hp).owned.accounts.held key r hrule).2⟩

end

/-- Closed grammars never dangle. Where all that is held was assembled, with
every rule referred to only from within its own body, each back-reference has
its rule within something that is held, and no run comes to one that has not.
Every blueprint that takes no element apart, with definitions that are held too,
is such a grammar. -/
theorem closed_grammars_never_dangle :
    (∀ (heap : Heap) (root : Part) (others : List Part),
      (∀ p ∈ root :: others, Part.Assembled heap [] p) →
        (∀ p ∈ root :: others, ∀ name key, p.element.Refers name key →
          Part.KeepsTarget heap (root :: others) name key) ∧
        ∀ (σ : Type) (settings : Settings) (text : List Char) (tracer : Tracer σ) (init : σ)
          (name : String), ((Grammar.ofHeld root others).evaluateWith settings text tracer init).1 ≠
            .error (.danglingRule name)) ∧
      ∀ (b : Blueprint) (definitions : List (String × Blueprint)) (g : Grammar),
        b.takesApart = false → (∀ d ∈ definitions, d.2.takesApart = false) →
          b.grammar definitions = .ok g →
            ∃ (heap : Heap) (root : Part) (others : List Part),
              (∀ p ∈ root :: others, Part.Assembled heap [] p) ∧ g = .ofHeld root others := by
  refine ⟨?_, fun b definitions g hb hdefs => Blueprint.grammar_assembled hb hdefs⟩
  intro heap root others hheld
  refine ⟨fun p hp name key => Part.keepsTarget_of_assembled hheld hp, ?_⟩
  intro σ settings text tracer init name hdangling
  let en : Engine σ := ⟨Part.rulesAmong (root :: others), settings.limits, tracer⟩
  -- What the run comes to are the root and the rules, all of them within what is held.
  have hrules : ∀ key r, en.rules.lookup key = some r → en.rules.Resolves r := by
    intro key r hr
    obtain ⟨p, hp, hwithin⟩ := Part.within_of_lookup hheld hr
    exact Part.resolves_of_assembled hheld hp hwithin
  have hroot : en.rules.Resolves root.element :=
    Part.resolves_of_assembled hheld List.mem_cons_self (.self _)
  have hrun := Engine.run_never_dangles hrules settings.requireEnd root.element hroot
    (Grammar.startState settings text init)
  unfold Grammar.evaluateWith at hdangling
  dsimp only at hdangling
  split at hdangling
  · cases hdangling
  · cases hdangling
    exact hrun.of_error ‹_› ⟨name, rfl⟩

/-- A flattened rule that refers to itself through a label, and to a definition
that is a stripped rule. -/
theorem nested_rules_never_dangle :
    let item : Blueprint := .strip (.recursive "item" (.orElse (.literal "a")
      (.plus (.literal "-") (.ref "item"))))
    let list : Blueprint := .flatten (.recursive "list" (.plus (.plus (.literal "(")
      (.zeroOrMore (.orElse (.withId (.ref "list") "inner") (.ref "item")))) (.literal ")")))
    ∃ g, list.grammar [("item", item)] = .ok g ∧ g.rules.length = 2 ∧
      ∀ settings text name, g.evaluatePrefix settings text ≠ .error (.danglingRule name) := by
  intro item list
  refine ⟨_, rfl, rfl, ?_⟩
  obtain ⟨heap, root, others, hheld, hg⟩ := closed_grammars_never_dangle.2 list [("item", item)] _
    (by decide) (by decide) rfl
  rw [hg]
  intro settings text name
  exact (closed_grammars_never_dangle.1 heap root others hheld).2 Unit settings text .silent () name

end Peg
