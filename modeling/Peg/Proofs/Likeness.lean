import Mathlib.Data.List.Forall2
import Peg.Grammar.Printer
import Peg.Proofs.Walk

/-!
Grammars that differ in their decorations only.

A pairing relates the elements of two grammars that stand at the same place. It
starts at the roots, goes from elements to their children and from
back-references to their rules, and asks everywhere for the same kind. How much
the decorations have to agree may depend on whether there is a typed leaf above
the elements.
-/
namespace Peg

/-- Decorations that have the same flags, if `flags`, and the same label, if
`labels`. -/
structure Decor.Like (flags labels : Bool) (d d' : Decor) : Prop where
  stripped : flags = true → d.stripped = d'.stripped
  flattened : flags = true → d.flattened = d'.flattened
  id : labels = true → d.id = d'.id

theorem Decor.Like.refl (flags labels : Bool) (d : Decor) : d.Like flags labels d :=
  ⟨fun _ => rfl, fun _ => rfl, fun _ => rfl⟩

/-- The same kind over children that `R` relates. What the keys of rules are
does not count, only where they lead. -/
inductive Kind.Lift {α β : Type} (R : α → β → Prop) : Kind α → Kind β → Prop
  | literal (text : String) : Lift R (.literal text) (.literal text)
  | pattern (regex : Regex) (capture : Capture) :
      Lift R (.pattern regex capture) (.pattern regex capture)
  | sequence {cs : List α} {cs' : List β} (children : List.Forall₂ R cs cs') :
      Lift R (.sequence cs) (.sequence cs')
  | alternation {cs : List α} {cs' : List β} (children : List.Forall₂ R cs cs') :
      Lift R (.alternation cs) (.alternation cs')
  | repetition {c : α} {c' : β} (child : R c c') (min : Nat) (max : Option Nat) :
      Lift R (.repetition c min max) (.repetition c' min max)
  | separated {i s : α} {i' s' : β} (item : R i i') (separator : R s s') (min : Nat)
      (max : Option Nat) : Lift R (.separated i s min max) (.separated i' s' min max)
  | convert {c : α} {c' : β} (child : R c c') (name : Option String)
      (f : String → Option Value) : Lift R (.convert c name f) (.convert c' name f)
  | endOfInput : Lift R .endOfInput .endOfInput
  | rule {b : α} {b' : β} (key key' : Option Nat) (name : String) (body : R b b') :
      Lift R (.rule key name b) (.rule key' name b')
  | backref (name : String) (target target' : Nat) :
      Lift R (.backref name target) (.backref name target')

theorem Kind.Lift.isSequence_eq {α β : Type} {R : α → β → Prop} {k : Kind α} {k' : Kind β}
    (h : Kind.Lift R k k') : k'.isSequence = k.isSequence := by
  cases h with
  | _ => rfl

namespace Grammar

/-- `F` pairs the elements of two grammars with the same tree of kinds. Its first
argument tells whether there is a typed leaf above the elements; with `follow`,
a typed leaf above a back-reference is above its rule as well. The decorations
of a pair are related by `like`. -/
structure Pairing (g g' : Grammar) (follow : Bool) (like : Bool → Decor → Decor → Prop)
    (F : Bool → Element → Element → Prop) : Prop where
  root : F false g.root g'.root
  decor {inner : Bool} {e e' : Element} : F inner e e' → like inner e.decor e'.decor
  kind {inner : Bool} {e e' : Element} :
    F inner e e' → Kind.Lift (F (e.isTyped || inner)) e.kind e'.kind
  rule {inner : Bool} {e e' : Element} {name name' : String} {target target' : Nat} :
    F inner e e' → e.kind = .backref name target → e'.kind = .backref name' target' →
      Option.Rel (F (follow && inner)) (g.rules.lookup target) (g'.rules.lookup target')

/-- The same tree of kinds, with decorations that differ in their labels only. -/
def SameButLabels (g g' : Grammar) : Prop :=
  ∃ F, Pairing g g' true (fun _ => Decor.Like true false) F

/-- The same tree of kinds, with decorations that differ in their flags only, and
not below typed leaves. With `follow`, the rule of a back-reference below a
typed leaf is below it too. -/
def SameButFlags (follow : Bool) (g g' : Grammar) : Prop :=
  ∃ F, Pairing g g' follow (fun inner => Decor.Like inner true) F

end Grammar

namespace Element

/-- A relation between elements that are the same but for the keys of rules. -/
def Exact (R : Element → Element → Prop) : Prop :=
  ∀ e e', R e e' → e.decor = e'.decor ∧ Kind.Lift R e.kind e'.kind

variable {R : Element → Element → Prop}

mutual

theorem display_eq (hR : Exact R) : ∀ e e', R e e' → e.display = e'.display
  | .node d k, .node d' k', h => by
    obtain ⟨hdecor, hkind⟩ := hR _ _ h
    obtain rfl : d = d' := hdecor
    exact congrArg d.around (displayKind_eq hR k k' hkind)

theorem displayKind_eq (hR : Exact R) :
    ∀ k k', Kind.Lift R k k' → displayKind k = displayKind k'
  | .literal _, _, .literal _ => rfl
  | .pattern _ _, _, .pattern _ _ => rfl
  | .sequence cs, _, .sequence hcs =>
    congrArg (fun texts => "(" ++ " + ".intercalate texts ++ ")") (displayAll_eq hR cs _ hcs)
  | .alternation cs, _, .alternation hcs =>
    congrArg (fun texts => "[" ++ " | ".intercalate texts ++ "]") (displayAll_eq hR cs _ hcs)
  | .repetition c _ _, _, .repetition hc min max =>
    congrArg (· ++ repetitionMark min max) (display_eq hR c _ hc)
  | .separated i s _ _, _, .separated hi hs min max =>
    congrArg₂ (fun item separator =>
      "delimited(" ++ item ++ ", " ++ separator ++ ")" ++ separatedMark min max)
      (display_eq hR i _ hi) (display_eq hR s _ hs)
  | .convert _ (some _) _, _, .convert _ _ _ => rfl
  | .convert c none _, _, .convert hc _ _ =>
    congrArg (fun text => "convert(" ++ text ++ ")") (display_eq hR c _ hc)
  | .endOfInput, _, .endOfInput => rfl
  | .rule _ _ _, _, .rule _ _ _ _ => rfl
  | .backref _ _, _, .backref _ _ _ => rfl

theorem displayAll_eq (hR : Exact R) :
    ∀ es es', List.Forall₂ R es es' → displayAll es = displayAll es'
  | [], _, .nil => rfl
  | e :: es, _, .cons he hes =>
    congrArg₂ List.cons (display_eq hR e _ he) (displayAll_eq hR es _ hes)

end

end Element

namespace Grammar.Pairing

variable {g g' : Grammar} {follow flags labels : Bool} {F : Bool → Element → Element → Prop}

/-- Below a typed leaf nothing differs if the labels do not. -/
theorem exact (h : Pairing g g' follow (fun inner => Decor.Like (flags || inner) true) F) :
    Element.Exact (F true) := by
  intro e e' he
  have hdecor := h.decor he
  have hkind := h.kind he
  rw [Bool.or_true] at hdecor hkind
  refine ⟨?_, hkind⟩
  generalize e.decor = d at hdecor
  generalize e'.decor = d' at hdecor
  cases d
  cases d'
  rw [Decor.mk.injEq]
  exact ⟨hdecor.stripped rfl, hdecor.flattened rfl, hdecor.id rfl⟩

/-- What is expected where a leaf fails does not depend on its flags, nor on
those of anything that is not below a typed leaf. -/
theorem label_eq (h : Pairing g g' follow (fun inner => Decor.Like (flags || inner) true) F)
    {inner : Bool} {e e' : Element} (he : F inner e e')
    (hleaf : e.isLeaf = true ∨ e.isTyped = true) : e.label = e'.label := by
  have hid : e.decor.id = e'.decor.id := (h.decor he).id rfl
  have hkind := h.kind he
  obtain ⟨d, k⟩ := e
  obtain ⟨d', k'⟩ := e'
  change d.id = d'.id at hid
  unfold Element.label
  simp only [Element.decor, hid]
  cases d'.id with
  | some id => rfl
  | none =>
    change Kind.Lift (F (Element.isTyped (.node d k) || inner)) k k' at hkind
    cases hkind with
    | literal _ | pattern _ _ | endOfInput => rfl
    | convert child name f =>
      have hchild : F true _ _ := child
      exact Element.displayKind_eq h.exact _ _ (.convert hchild name f)
    | sequence _ | alternation _ | repetition _ _ _ | separated _ _ _ _ | rule _ _ _ _
    | backref _ _ _ => simp [Element.isLeaf, Element.isTyped, Element.kind] at hleaf

end Grammar.Pairing

end Peg
