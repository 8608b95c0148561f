import Peg.Grammar.Combinator
import Peg.Grammar.Conversion
import Peg.Proofs.Likeness
import Peg.Proofs.Limits
import Peg.Proofs.Simulation

/-!
Decorations do not influence recognition.

Two grammars that differ in their decorations only are run side by side. Their
runs are twins at every point. The contributions of a pair of elements are the
same where the flags are, which is so below typed leaves, the only elements
that look at what their children contribute.
-/
namespace Peg

open Eval

/-- The same, as far as `exact` asks for it. -/
def Close {α : Type} (exact : Bool) (a b : α) : Prop :=
  exact = true → a = b

/-- The two steps keep runs twins and give something or nothing alike. -/
def Alike {α : Type} (labels exact : Bool) (m m' : Eval Unit (Option α)) : Prop :=
  Sim labels (Option.Rel (Close exact)) m m'

section Composite

variable {labels exact : Bool} {sub sub' : Sub Unit} (en en' : Engine Unit)
  (hen : en.tracer = .silent) (hen' : en'.tracer = .silent)

theorem allOf_alike {cs cs' : List Element}
    (hcs : List.Forall₂ (fun c c' => Alike labels exact (sub c) (sub' c')) cs cs')
    {items items' : List Value} (hitems : Close exact items items') :
    Alike labels exact (Engine.allOf sub items cs) (Engine.allOf sub' items' cs') := by
  induction hcs generalizing items items' with
  | nil =>
    apply Sim.pure
    exact .some fun h => by rw [hitems h]
  | cons hc _ ih =>
    apply hc.bind
    intro r r' hr
    cases hr with
    | none => exact Sim.pure .none
    | some hout =>
      apply ih
      intro h
      rw [hitems h, hout h]

theorem firstOf_alike {cs cs' : List Element}
    (hcs : List.Forall₂ (fun c c' => Alike labels exact (sub c) (sub' c')) cs cs') :
    Alike labels exact (Engine.firstOf sub cs) (Engine.firstOf sub' cs') := by
  induction hcs with
  | nil => exact Sim.pure .none
  | cons hc _ ih =>
    apply hc.bind
    intro r r' hr
    cases hr with
    | none => exact ih
    | some hout => exact Sim.pure (.some hout)

/-- Results of a loop: as many matches, and the same values if `exact`. -/
def SameCount (exact : Bool) (p q : Nat × List Value) : Prop :=
  p.1 = q.1 ∧ Close exact p.2 q.2

theorem rounds_alike {c c' : Element} (hc : Alike labels exact (sub c) (sub' c'))
    (most : Option Nat) (bound count : Nat) {items items' : List Value}
    (hitems : Close exact items items') :
    Sim labels (SameCount exact) (Engine.rounds sub c most bound count items)
      (Engine.rounds sub' c' most bound count items') := by
  induction bound generalizing count items items' with
  | zero => exact Sim.pure ⟨rfl, hitems⟩
  | succ bound ih =>
    unfold Engine.rounds
    split
    · apply Sim.cursor.bind
      rintro mark _ rfl
      apply hc.bind
      intro r r' hr
      cases hr with
      | none => exact Sim.pure ⟨rfl, hitems⟩
      | some hout =>
        apply Sim.cursor.bind
        rintro stop _ rfl
        split
        · apply ih
          intro h
          rw [hitems h, hout h]
        · apply (Sim.reset mark).bind
          intro _ _ _
          exact Sim.pure ⟨rfl, hitems⟩
    · exact Sim.pure ⟨rfl, hitems⟩

theorem firstItem_alike {c c' : Element} (hc : Alike labels exact (sub c) (sub' c'))
    (most : Option Nat) :
    Sim labels (SameCount exact) (Engine.firstItem sub c most)
      (Engine.firstItem sub' c' most) := by
  unfold Engine.firstItem
  split
  · exact Sim.pure ⟨rfl, fun _ => rfl⟩
  · apply Sim.cursor.bind
    rintro mark _ rfl
    apply hc.bind
    intro r r' hr
    cases hr with
    | none => exact Sim.pure ⟨rfl, fun _ => rfl⟩
    | some hout =>
      apply Sim.cursor.bind
      rintro stop _ rfl
      split
      · exact Sim.pure ⟨rfl, fun h => by rw [hout h]⟩
      · apply (Sim.reset mark).bind
        intro _ _ _
        exact Sim.pure ⟨rfl, fun _ => rfl⟩

include hen hen'

theorem sequence_alike {cs cs' : List Element}
    (hcs : List.Forall₂ (fun c c' => Alike labels exact (sub c) (sub' c')) cs cs') :
    Alike labels exact (en.sequence sub cs) (en'.sequence sub' cs') := by
  unfold Engine.sequence
  rw [hen, hen']
  apply Sim.look
  intro s t hst
  rw [hst.scanner]
  apply (Sim.setScanner _).bind
  intro _ _ _
  apply (allOf_alike hcs fun _ => rfl).bind
  intro r r' hr
  cases hr with
  | some hitems =>
    apply Sim.look
    intro s t hst
    rw [hst.scanner]
    apply (Sim.ofMarks _).bind
    intro _ _ _
    exact Sim.pure (.some fun h => by rw [hitems h])
  | none =>
    apply Sim.cursor.bind
    rintro start _ rfl
    apply Sim.look
    intro s t hst
    rw [hst.scanner]
    apply (Sim.ofMarks _).bind
    intro _ _ _
    apply (Sim.backtracked start).bind
    intro _ _ _
    exact Sim.pure .none

theorem enough_alike (start : Cursor) (min : Nat) {p q : Nat × List Value}
    (h : SameCount exact p q) :
    Alike labels exact (en.enough start min p) (en'.enough start min q) := by
  unfold Engine.enough
  rw [hen, hen', h.1]
  split
  · apply (Sim.rewind start).bind
    intro _ _ _
    exact Sim.pure .none
  · exact Sim.pure (.some fun hexact => by rw [h.2 hexact])

theorem repetition_alike {c c' : Element} (hc : Alike labels exact (sub c) (sub' c'))
    (min : Nat) (most : Option Nat) :
    Alike labels exact (en.repetition sub c min most) (en'.repetition sub' c' min most) := by
  unfold Engine.repetition
  apply Sim.look
  intro s t hst
  rw [hst.scanner, hst.fuel]
  apply (rounds_alike hc most _ 0 fun _ => rfl).bind
  intro p q hpq
  exact enough_alike en en' hen hen' _ min hpq

theorem moreItems_alike {i i' s s' : Element} (hi : Alike labels exact (sub i) (sub' i'))
    (hs : Alike labels exact (sub s) (sub' s')) (most : Option Nat) (bound count : Nat)
    {items items' : List Value} (hitems : Close exact items items') :
    Sim labels (SameCount exact) (en.moreItems sub i s most bound count items)
      (en'.moreItems sub' i' s' most bound count items') := by
  induction bound generalizing count items items' with
  | zero => exact Sim.pure ⟨rfl, hitems⟩
  | succ bound ih =>
    unfold Engine.moreItems
    rw [hen, hen']
    have hback : ∀ mark, Sim labels (SameCount exact)
        (do rewind .silent mark; return (count, items))
        (do rewind .silent mark; return (count, items')) := by
      intro mark
      apply (Sim.rewind mark).bind
      intro _ _ _
      exact Sim.pure ⟨rfl, hitems⟩
    split
    · apply Sim.cursor.bind
      rintro mark _ rfl
      apply hs.bind
      intro r r' hr
      cases hr with
      | none => exact Sim.pure ⟨rfl, hitems⟩
      | some hsep =>
        apply hi.bind
        intro r r' hr
        cases hr with
        | none => exact hback mark
        | some hout =>
          apply Sim.cursor.bind
          rintro stop _ rfl
          split
          · apply ih
            intro h
            rw [hitems h, hsep h, hout h]
          · exact hback mark
    · exact Sim.pure ⟨rfl, hitems⟩

theorem separated_alike {i i' s s' : Element} (hi : Alike labels exact (sub i) (sub' i'))
    (hs : Alike labels exact (sub s) (sub' s')) (min : Nat) (most : Option Nat) :
    Alike labels exact (en.separated sub i s min most) (en'.separated sub' i' s' min most) := by
  unfold Engine.separated
  apply Sim.look
  intro s t hst
  rw [hst.scanner, hst.fuel]
  apply (firstItem_alike hi most).bind
  rintro ⟨count, items⟩ ⟨_, items'⟩ ⟨rfl, hitems⟩
  dsimp only
  split
  · exact enough_alike en en' hen hen' _ min ⟨rfl, hitems⟩
  · apply (moreItems_alike en en' hen hen' hi hs most _ count hitems).bind
    intro p q hpq
    exact enough_alike en en' hen hen' _ min hpq

end Composite

section Leaf

variable {labels exact : Bool} {e e' : Element}
  (hlabel : labels = true → e.label = e'.label)

include hlabel

theorem literal_alike (text : String) :
    Alike labels exact (Engine.literal e text) (Engine.literal e' text) := by
  unfold Engine.literal
  apply Sim.look
  intro s t hst
  rw [hst.scanner]
  cases s.scanner.scanLiteral? text with
  | some scanner =>
    apply (Sim.setScanner scanner).bind
    intro _ _ _
    exact Sim.pure (.some fun _ => rfl)
  | none =>
    apply (Sim.record _ hlabel).bind
    intro _ _ _
    exact Sim.pure .none

theorem pattern_alike (regex : Regex) (capture : Capture) :
    Alike labels exact (Engine.pattern e regex capture) (Engine.pattern e' regex capture) := by
  unfold Engine.pattern
  apply Sim.look
  intro s t hst
  rw [hst.scanner]
  cases s.scanner.scanRegex? regex with
  | some found =>
    apply (Sim.setScanner found.2).bind
    intro _ _ _
    exact Sim.pure (.some fun _ => rfl)
  | none =>
    apply (Sim.record _ hlabel).bind
    intro _ _ _
    exact Sim.pure .none

theorem endOfInput_alike :
    Alike labels exact (Engine.endOfInput e) (Engine.endOfInput e') := by
  unfold Engine.endOfInput
  apply Sim.look
  intro s t hst
  rw [hst.scanner]
  dsimp only
  split
  · apply (Sim.setScanner _).bind
    intro _ _ _
    exact Sim.pure (.some fun _ => rfl)
  · apply (Sim.record _ hlabel).bind
    intro _ _ _
    exact Sim.pure .none

/-- A typed leaf looks at what its child contributes, which is therefore to be
the same. Then the value of the leaf is the same too. -/
theorem convert_alike {sub sub' : Sub Unit} {c c' : Element}
    (hc : Alike labels true (sub c) (sub' c')) (f : String → Option Value) :
    Alike labels exact (Engine.convert sub e c f) (Engine.convert sub' e' c' f) := by
  unfold Engine.convert
  apply Sim.cursor.bind
  rintro mark _ rfl
  apply (Sim.quieten (· + 1)).bind
  intro _ _ _
  apply hc.bind
  intro r r' hr
  -- What is converted depends on the whole contribution, not only on its presence.
  have hsame : r' = r := by
    cases hr with
    | none => rfl
    | some hout => rw [hout rfl]
  rw [hsame]
  apply (Sim.quieten (· - 1)).bind
  intro _ _ _
  apply Sim.look
  intro s t hst
  rw [hst.scanner]
  cases r.bind fun out => f (Engine.leafText s.scanner mark out) with
  | some v => exact Sim.pure (.some fun _ => rfl)
  | none =>
    apply (Sim.reset mark).bind
    intro _ _ _
    apply Sim.skippedCursor.bind
    rintro place _ rfl
    apply (Sim.record place hlabel).bind
    intro _ _ _
    exact Sim.pure .none

end Leaf

theorem Contribution.decorate_close {exact labels : Bool} {d d' : Decor}
    (hd : d.Like exact labels d') {out out' : Contribution} (hout : Close exact out out') :
    Close exact (out.decorate d) (out'.decorate d') := by
  intro h
  unfold decorate
  rw [hout h, hd.stripped h, hd.flattened h]

section Element

variable {labels flags : Bool} {g g' : Grammar} {F : Bool → Element → Element → Prop}
  (hpair : g.Pairing g' true (fun inner => Decor.Like (flags || inner) labels) F)
  (en en' : Engine Unit) (hen : en.tracer = .silent) (hen' : en'.tracer = .silent)
  (hrules : en.rules = g.rules) (hrules' : en'.rules = g'.rules)

include hpair hrules hrules'

theorem backref_alike {sub sub' : Sub Unit}
    (hsub : ∀ inner e e', F inner e e' → Alike labels (flags || inner) (sub e) (sub' e'))
    {inner : Bool} {e e' : Element} (he : F inner e e') {name : String} {target target' : Nat}
    (hkind : e.kind = .backref name target) (hkind' : e'.kind = .backref name target') :
    Alike labels (flags || inner) (en.backref sub name target)
      (en'.backref sub' name target') := by
  have hrule := hpair.rule he hkind hkind'
  unfold Engine.backref
  rw [hrules, hrules']
  generalize g.rules.lookup target = rule at hrule
  generalize g'.rules.lookup target' = rule' at hrule
  cases hrule with
  | none => exact Sim.throw _
  | some hbody => exact hsub inner _ _ hbody

include hen hen'

theorem evalKind_alike {sub sub' : Sub Unit}
    (hsub : ∀ inner e e', F inner e e' → Alike labels (flags || inner) (sub e) (sub' e'))
    {inner : Bool} {e e' : Element} (he : F inner e e') :
    Alike labels (flags || inner) (en.evalKind sub e) (en'.evalKind sub' e') := by
  have hlabel : e.isLeaf = true ∨ e.isTyped = true → labels = true → e.label = e'.label := by
    intro hleaf hlabels
    subst hlabels
    exact hpair.label_eq he hleaf
  have hchildren : ∀ cs cs', List.Forall₂ (F inner) cs cs' →
      List.Forall₂ (fun c c' => Alike labels (flags || inner) (sub c) (sub' c')) cs cs' :=
    fun cs cs' hcs => hcs.imp fun c c' hc => hsub inner c c' hc
  have hkind := hpair.kind he
  obtain ⟨d, k⟩ := e
  obtain ⟨d', k'⟩ := e'
  change Kind.Lift (F (Element.isTyped (.node d k) || inner)) k k' at hkind
  unfold Engine.evalKind
  cases hkind with
  | literal text => exact literal_alike (hlabel (Or.inl rfl)) text
  | pattern regex capture => exact pattern_alike (hlabel (Or.inl rfl)) regex capture
  | endOfInput => exact endOfInput_alike (hlabel (Or.inl rfl))
  | convert child name f =>
    have hchild := hsub true _ _ child
    rw [Bool.or_true] at hchild
    exact convert_alike (hlabel (Or.inr rfl)) hchild f
  | sequence children => exact sequence_alike en en' hen hen' (hchildren _ _ children)
  | alternation children => exact firstOf_alike (hchildren _ _ children)
  | repetition child min max =>
    exact repetition_alike en en' hen hen' (hsub inner _ _ child) min max
  | separated item separator min max =>
    exact separated_alike en en' hen hen' (hsub inner _ _ item) (hsub inner _ _ separator) min max
  | rule key key' name body => exact hsub inner _ _ body
  | backref name target target' => exact backref_alike hpair en en' hrules hrules' hsub he rfl rfl

/-- Paired elements are evaluated alike. -/
theorem eval_alike (hlimits : en'.limits = en.limits) (room : Nat) {inner : Bool}
    {e e' : Element} (he : F inner e e') :
    Alike labels (flags || inner) (en.eval room e) (en'.eval room e') := by
  -- A reference may lead to a larger element, so the room is what goes down.
  induction room generalizing inner e e' with
  | zero =>
    unfold Engine.eval
    rw [hlimits]
    apply (Sim.spend en.limits).bind
    intro _ _ _
    exact Sim.throw _
  | succ room ih =>
    unfold Engine.eval
    rw [hlimits, hen, hen']
    apply (Sim.spend en.limits).bind
    intro _ _ _
    apply Sim.cursor.bind
    rintro entry _ rfl
    apply (Sim.enter e e').bind
    intro _ _ _
    have hkind : Alike labels (flags || inner) (en.evalKind (en.eval room) e)
        (en'.evalKind (en'.eval room) e') :=
      evalKind_alike hpair en en' hen hen' hrules hrules' (fun _ _ _ h => ih h) he
    apply hkind.bind
    intro r r' hr
    cases hr with
    | some hout =>
      apply (Sim.succeed e e' entry).bind
      intro _ _ _
      exact Sim.pure (.some (Contribution.decorate_close (hpair.decor he) hout))
    | none =>
      apply (Sim.fail e e').bind
      intro _ _ _
      exact Sim.pure .none

end Element

section Run

variable {labels exact : Bool}

/-- Twins have the same to say where there is no match. -/
theorem noMatch_alike {α : Type} {Q : α → α → Prop} :
    Sim labels Q (Engine.noMatch : Eval Unit α) Engine.noMatch := by
  intro s t hst
  refine Matched.error ⟨?_, ?_⟩
  · simp [Furthest.error, ParseError.unlabelled, hst.cursor]
  · intro hlabels
    simp [Furthest.error, hst.cursor, hst.expected hlabels]

theorem demandEnd_alike : Sim labels Eq (Engine.demandEnd : Eval Unit Unit) Engine.demandEnd := by
  unfold Engine.demandEnd
  apply Sim.look
  intro s t hst
  rw [hst.scanner]
  apply (Sim.setScanner _).bind
  intro _ _ _
  split
  · exact Sim.pure rfl
  · apply (Sim.record _ fun _ => rfl).bind
    intro _ _ _
    exact noMatch_alike

/-- Results that end at the same offset, with the same value if `exact`. -/
def SameEnd (exact : Bool) (p q : Value × Nat) : Prop :=
  p.2 = q.2 ∧ Close exact p.1 q.1

theorem run_alike (en en' : Engine Unit) {e e' : Element} (hlimits : en'.limits = en.limits)
    (hsequence : e'.kind.isSequence = e.kind.isSequence)
    (hroot : Alike labels exact (en.eval en.limits.depth e) (en'.eval en.limits.depth e'))
    (requireEnd : Bool) :
    Sim labels (SameEnd exact) (en.run requireEnd e) (en'.run requireEnd e') := by
  unfold Engine.run
  rw [hlimits, hsequence]
  apply hroot.bind
  intro r r' hr
  cases hr with
  | none => exact noMatch_alike
  | some hout =>
    apply Sim.cursor.bind
    rintro stop _ rfl
    have hresult : ∀ value value' : Value, Close exact value value' →
        Sim labels (SameEnd exact) (pure (value, stop.offset)) (pure (value', stop.offset)) :=
      fun _ _ hvalue => Sim.pure ⟨rfl, hvalue⟩
    split
    · apply demandEnd_alike.bind
      intro _ _ _
      exact hresult _ _ fun h => by rw [hout h]
    · exact hresult _ _ fun h => by rw [hout h]

end Run

/-- The results of two runs: matches with the same end, and the same value if
`exact`, or errors alike. -/
inductive SameResult (labels exact : Bool) :
    Except ParseError (Value × Nat) → Except ParseError (Value × Nat) → Prop
  | ok {p q : Value × Nat} (h : SameEnd exact p q) : SameResult labels exact (.ok p) (.ok q)
  | error {e e' : ParseError} (h : e.Like labels e') :
      SameResult labels exact (.error e) (.error e')

theorem SameResult.mapError_eq {labels : Bool} {r r' : Except ParseError (Value × Nat)}
    (h : SameResult labels true r r') :
    r.mapError ParseError.unlabelled = r'.mapError ParseError.unlabelled := by
  cases h with
  | ok hend =>
    obtain ⟨hstop, hvalue⟩ := hend
    exact congrArg Except.ok (Prod.ext (hvalue rfl) hstop)
  | error hlike => exact congrArg Except.error hlike.unlabelled_eq

theorem SameResult.map_snd_eq {exact : Bool} {r r' : Except ParseError (Value × Nat)}
    (h : SameResult true exact r r') : r.map Prod.snd = r'.map Prod.snd := by
  cases h with
  | ok hend => exact congrArg Except.ok hend.1
  | error hlike => exact congrArg Except.error (hlike.eq rfl)

/-- Paired grammars are run alike. -/
theorem Grammar.Pairing.evaluatePrefix_alike (labels flags : Bool) {g g' : Grammar}
    {F : Bool → Element → Element → Prop}
    (hpair : g.Pairing g' true (fun inner => Decor.Like (flags || inner) labels) F)
    (settings : Settings) (text : List Char) :
    SameResult labels (flags || false) (g.evaluatePrefix settings text)
      (g'.evaluatePrefix settings text) := by
  let en : Engine Unit := ⟨g.rules, settings.limits, .silent⟩
  let en' : Engine Unit := ⟨g'.rules, settings.limits, .silent⟩
  let s : State Unit := startState settings text ()
  have hroot : Alike labels (flags || false) (en.eval en.limits.depth g.root)
      (en'.eval en.limits.depth g'.root) :=
    eval_alike hpair en en' rfl rfl rfl rfl rfl en.limits.depth hpair.root
  have hrun : Sim labels (SameEnd (flags || false)) (en.run settings.requireEnd g.root)
      (en'.run settings.requireEnd g'.root) :=
    run_alike en en' rfl (hpair.kind hpair.root).isSequence_eq hroot settings.requireEnd
  have hmatched := hrun s s ⟨rfl, rfl, rfl, rfl, rfl, fun _ => rfl⟩
  unfold evaluatePrefix
  rw [evaluateWith_eq_report, evaluateWith_eq_report]
  change SameResult labels (flags || false) (report (en.run settings.requireEnd g.root s)).1
    (report (en'.run settings.requireEnd g'.root s)).1
  generalize en.run settings.requireEnd g.root s = r at hmatched
  generalize en'.run settings.requireEnd g'.root s = r' at hmatched
  cases hmatched with
  | ok related => exact .ok related
  | error like => exact .error like

namespace Negation

/-- A word with a semicolon, which is stripped. -/
def word (d : Decor) : Element :=
  .node d (.sequence [.literal "true", (Element.literal ";").strip])

def reference : Element :=
  .ofKind (.backref "x" 0)

def group : Element :=
  .sequence [.literal "(", reference, .literal ")"]

/-- What is negated: the whole rule again if `deep`, or only a literal. -/
def operand (deep : Bool) : Element :=
  if deep then reference else .literal "true"

def leaf (deep : Bool) : Element :=
  (operand deep).convert Conversion.truth

def negation (deep : Bool) : Element :=
  .sequence [.literal "!", leaf deep]

def body (d : Decor) (deep : Bool) : Element :=
  .alternation [word d, group, negation deep]

def rule (d : Decor) (deep : Bool) : Element :=
  .ofKind (.rule (some 0) "x" (body d deep))

/-- A rule whose typed leaf comes after a word with the decorations `d`. -/
def grammar (d : Decor) (deep : Bool) : Grammar :=
  ⟨rule d deep, [(0, rule d deep)]⟩

/-- The elements of two such grammars that stand at the same place. -/
inductive Paired (d d' : Decor) (deep : Bool) : Bool → Element → Element → Prop
  | rule : Paired d d' deep false (rule d deep) (rule d' deep)
  | body : Paired d d' deep false (body d deep) (body d' deep)
  | word : Paired d d' deep false (word d) (word d')
  | group : Paired d d' deep false group group
  | negation : Paired d d' deep false (negation deep) (negation deep)
  | leaf : Paired d d' deep false (leaf deep) (leaf deep)
  | operand : Paired d d' deep true (operand deep) (operand deep)
  | reference : Paired d d' deep false reference reference
  | literal (text : String) : Paired d d' deep false (.literal text) (.literal text)
  | stripped (text : String) :
      Paired d d' deep false (Element.literal text).strip (Element.literal text).strip

/-- The grammars are paired if their words are, unless a typed leaf is above the
word and counts as such. -/
theorem pairing {d d' : Decor} {deep follow : Bool} {like : Bool → Decor → Decor → Prop}
    (hdeep : (follow && deep) = false) (hrefl : ∀ inner d, like inner d d)
    (hword : like false d d') :
    Grammar.Pairing (grammar d deep) (grammar d' deep) follow like (Paired d d' deep) where
  root := .rule
  decor := by
    intro inner e e' he
    cases he with
    | word => exact hword
    | _ => exact hrefl _ _
  kind := by
    intro inner e e' he
    cases he with
    | rule => exact .rule _ _ _ .body
    | body => exact .alternation (.cons .word (.cons .group (.cons .negation .nil)))
    | word => exact .sequence (.cons (.literal _) (.cons (.stripped _) .nil))
    | group => exact .sequence (.cons (.literal _) (.cons .reference (.cons (.literal _) .nil)))
    | negation => exact .sequence (.cons (.literal _) (.cons .leaf .nil))
    | leaf => exact .convert .operand _ _
    | operand =>
      cases deep with
      | false => exact .literal _
      | true => exact .backref _ _ _
    | reference => exact .backref _ _ _
    | literal text => exact .literal _
    | stripped text => exact .literal _
  rule := by
    intro inner e e' name name' target target' he hkind hkind'
    have hfound : Option.Rel (Paired d d' deep false) ((grammar d deep).rules.lookup 0)
        ((grammar d' deep).rules.lookup 0) := .some .rule
    cases he with
    | reference =>
      cases hkind
      cases hkind'
      rwa [Bool.and_false]
    | operand =>
      cases deep with
      | false => cases hkind
      | true =>
        cases hkind
        cases hkind'
        rwa [hdeep]
    | _ => cases hkind

end Negation

/-- Decorations do not influence recognition. Grammars that differ in their labels
only have the same results, up to what they say was expected. Grammars that
differ in their flags only, and not below typed leaves, match the same texts as
far, and fail with the same errors. -/
theorem decorations_do_not_matter (g g' : Grammar) (settings : Settings) (text : List Char) :
    (g.SameButLabels g' →
        (g.evaluatePrefix settings text).mapError ParseError.unlabelled =
          (g'.evaluatePrefix settings text).mapError ParseError.unlabelled) ∧
      (g.SameButFlags true g' →
        (g.evaluatePrefix settings text).map Prod.snd =
          (g'.evaluatePrefix settings text).map Prod.snd) := by
  constructor
  · rintro ⟨F, hpair⟩
    have hsame : SameResult false true (g.evaluatePrefix settings text)
        (g'.evaluatePrefix settings text) :=
      Grammar.Pairing.evaluatePrefix_alike false true hpair settings text
    exact hsame.mapError_eq
  · rintro ⟨F, hpair⟩
    have hsame : SameResult true false (g.evaluatePrefix settings text)
        (g'.evaluatePrefix settings text) :=
      Grammar.Pairing.evaluatePrefix_alike true false hpair settings text
    exact hsame.map_snd_eq

/-- The word may be decorated in any way, as the typed leaf has a literal of its own. -/
theorem negation_decorations_do_not_matter :
    let text := ['(', '!', 't', 'r', 'u', 'e', ' ', ')', ';']
    let plain := Negation.grammar {} false
    let labelled := Negation.grammar { id := some "w" } false
    let flagged := Negation.grammar { stripped := true, flattened := true } false
    (labelled.evaluatePrefix {} text).mapError ParseError.unlabelled =
        (plain.evaluatePrefix {} text).mapError ParseError.unlabelled ∧
      (flagged.evaluatePrefix {} text).map Prod.snd =
        (plain.evaluatePrefix {} text).map Prod.snd ∧
      (plain.evaluatePrefix {} text).map Prod.snd = .ok 8 := by
  intro text plain labelled flagged
  have hlabelled : labelled.SameButLabels plain := by
    have hword : Decor.Like true false { id := some "w" } {} :=
      ⟨fun _ => rfl, fun _ => rfl, nofun⟩
    exact ⟨_, Negation.pairing rfl (fun _ => Decor.Like.refl _ _) hword⟩
  have hflagged : flagged.SameButFlags true plain := by
    have hword : Decor.Like false true { stripped := true, flattened := true } {} :=
      ⟨nofun, nofun, fun _ => rfl⟩
    exact ⟨_, Negation.pairing rfl (fun _ => Decor.Like.refl _ _) hword⟩
  refine ⟨?_, ?_, by decide +kernel⟩
  · exact (decorations_do_not_matter labelled plain {} text).1 hlabelled
  · exact (decorations_do_not_matter flagged plain {} text).2 hflagged

/-- A typed leaf that refers to the rule around it sees the flags of a word that
is not below it in the tree: flattened, the word is its text without the
semicolon, and otherwise the text that it matched. -/
theorem flags_matter_by_reference :
    let text := ['!', 't', 'r', 'u', 'e', ';']
    let plain := Negation.grammar {} true
    let flagged := Negation.grammar { flattened := true } true
    flagged.SameButFlags false plain ∧
      (flagged.evaluatePrefix {} text).map Prod.snd = .ok 6 ∧
      (plain.evaluatePrefix {} text).map Prod.snd =
        .error (.noMatch 1 1 2 ["convert(<x>)"]) := by
  intro text plain flagged
  have hword : Decor.Like false true { flattened := true } {} := ⟨nofun, nofun, fun _ => rfl⟩
  have hpair : flagged.SameButFlags false plain :=
    ⟨_, Negation.pairing rfl (fun _ => Decor.Like.refl _ _) hword⟩
  exact ⟨hpair, by decide +kernel, by decide +kernel⟩

end Peg
