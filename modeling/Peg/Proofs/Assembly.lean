import Peg.Grammar.Blueprint
import Peg.Proofs.Ownership

/-!
How elements are put together.

An assembly is whatever constructors, operators and decorations make, where a
rule is referred to only from within its own body. Every blueprint that takes
no element apart is one: each recursive rule in it gets a key that no other
rule has.
-/
namespace Peg

/-- Which rule has a key. Every rule that is made gets a key of its own, as an
object in memory has its address. -/
abbrev Heap := Nat → Option Element

namespace Part

/-- What can be made while the rules in `opened` are being made. A part may be
used any number of times, or not at all. -/
inductive Assembled (heap : Heap) : List (String × Nat) → Part → Prop
  /-- The handle of a rule, given to those who make its body. -/
  | handle {opened : List (String × Nat)} {name : String} {key : Nat}
      (known : (name, key) ∈ opened) :
      Assembled heap opened (.simple (.ofKind (.backref name key)))
  /-- A leaf, or an element around others such as a sequence or a conversion. -/
  | above {opened : List (String × Nat)} {e : Element} {parts : List Part}
      (fits : Above e parts) (each : ∀ p ∈ parts, Assembled heap opened p) :
      Assembled heap opened (.ofElement e parts)
  | plus {opened : List (String × Nat)} {a b : Part} (left : Assembled heap opened a)
      (right : Assembled heap opened b) : Assembled heap opened (a.plus b)
  | orElse {opened : List (String × Nat)} {a b : Part} (left : Assembled heap opened a)
      (right : Assembled heap opened b) : Assembled heap opened (a.orElse b)
  /-- A copy with other decorations, of a rule or a handle too. -/
  | redecorated {opened : List (String × Nat)} {p : Part} (edit : Decor → Decor)
      (copied : Assembled heap opened p) :
      Assembled heap opened (p.recast (p.element.redecorate edit))
  | recursive {opened : List (String × Nat)} {name : String} {key : Nat} {body : Part}
      (inner : Assembled heap ((name, key) :: opened) body)
      (address : heap key = some (Part.rule key name body).element) :
      Assembled heap opened (.rule key name body)

variable {heap heap' : Heap} {opened opened' : List (String × Nat)} {p : Part}

/-- What is assembled owns its rules. -/
theorem Assembled.owned (h : Assembled heap opened p) : Owned heap opened p := by
  induction h with
  | handle known => exact .backref {} known
  | above fits _ ih => exact .above fits ih
  | plus _ _ iha ihb => exact plus_owned iha ihb
  | orElse _ _ iha ihb => exact orElse_owned iha ihb
  | redecorated edit _ ih => exact recast_owned ih edit
  | recursive _ address ih => exact .rule ih address

/-- An assembly stays one while more rules are made, inside it or around it. -/
theorem Assembled.mono (h : Assembled heap opened p)
    (hheap : ∀ key r, heap key = some r → heap' key = some r) (hopened : opened ⊆ opened') :
    Assembled heap' opened' p := by
  induction h generalizing opened' with
  | handle known => exact .handle (hopened known)
  | above fits _ ih => exact .above fits fun p hp => ih p hp hopened
  | plus _ _ iha ihb => exact .plus (iha hopened) (ihb hopened)
  | orElse _ _ iha ihb => exact .orElse (iha hopened) (ihb hopened)
  | redecorated edit _ ih => exact .redecorated edit (ih hopened)
  | recursive _ address ih =>
    exact .recursive (ih (List.cons_subset_cons _ hopened)) (hheap _ _ address)

theorem Assembled.around (h : Assembled heap opened p) {wrap : Element → Element}
    (fits : Above (wrap p.element) [p]) : Assembled heap opened (p.around wrap) :=
  .above fits (by simpa using h)

/-- A leaf without sub-elements. -/
theorem Assembled.leaf {e : Element} (hchildren : e.children = []) (hkey : e.ruleKey? = none)
    (href : e.isBackref = false) : Assembled heap opened (.simple e) := by
  have hsimple : Part.simple e = .ofElement e [] := by rw [simple, hchildren, List.map_nil]
  rw [hsimple]
  exact .above ⟨hchildren.symm, hkey, href⟩ (by simp)

/-- An element around one leaf. -/
theorem Assembled.twig {e leaf : Element} (hchildren : e.children = [leaf])
    (hkey : e.ruleKey? = none) (href : e.isBackref = false) (hleaf : leaf.children = [])
    (hleafKey : leaf.ruleKey? = none) (hleafRef : leaf.isBackref = false) :
    Assembled heap opened (.simple e) := by
  have hsimple : Part.simple e = .ofElement e [.ofElement leaf []] := by
    rw [simple, hchildren, List.map_singleton]
  have hinner : Assembled heap opened (.ofElement leaf []) :=
    .above ⟨hleaf.symm, hleafKey, hleafRef⟩ (by simp)
  rw [hsimple]
  exact .above ⟨hchildren.symm, hkey, href⟩ (by simpa using hinner)

end Part

namespace Blueprint

open Peg.Part

mutual

/-- Whether an element is taken out of another one anywhere. -/
def takesApart : Blueprint → Bool
  | find _ _ | child _ _ => true
  | sequence children | alternation children => anyTakesApart children
  | plus a b | orElse a b | separatedBy a b _ _ => a.takesApart || b.takesApart
  | repetition b _ _ | optional b | oneOrMore b | zeroOrMore b | separated b _ _
  | convert b _ | recursive _ b | strip b | flatten b | withId b _ | wrap _ _ b => b.takesApart
  | literal _ | pattern _ | regex _ | groups _ | endOfInput | double | integer | ref _ => false

def anyTakesApart : List Blueprint → Bool
  | [] => false
  | b :: rest => b.takesApart || anyTakesApart rest

end

/-- From `key` to `next` keys were given to rules. -/
structure Grown (heap heap' : Heap) (key next : Nat) : Prop where
  le : key ≤ next
  old : ∀ k < key, heap' k = heap k
  free : ∀ k, next ≤ k → heap' k = none

/-- The keys from `key` on are free, and what can be referred to by name is there. -/
structure Ready (scope : Scope) (heap : Heap) (key : Nat) : Prop where
  free : ∀ k, key ≤ k → heap k = none
  definitions : ∀ d ∈ scope.definitions, Assembled heap [] d.2

/-- If the construction succeeds, its result is `good` with the rules made on the way. -/
def Makes {α : Type} (heap : Heap) (key : Nat) (good : Heap → α → Prop)
    (x : Except BuildError (α × Nat)) : Prop :=
  ∀ a next, x = .ok (a, next) → ∃ heap', Grown heap heap' key next ∧ good heap' a

section

variable {scope : Scope} {heap heap' : Heap} {key next : Nat} {α β : Type}

theorem Grown.refl (h : Ready scope heap key) : Grown heap heap key key :=
  ⟨Nat.le_refl key, fun _ _ => rfl, h.free⟩

theorem Grown.trans {heap'' : Heap} {last : Nat} (h : Grown heap heap' key next)
    (h' : Grown heap' heap'' next last) : Grown heap heap'' key last where
  le := Nat.le_trans h.le h'.le
  old k hk := by
    have hnext : k < next := Nat.lt_of_lt_of_le hk h.le
    rw [h'.old k hnext, h.old k hk]
  free := h'.free

/-- A rule that was there is still there. -/
theorem Grown.keeps (h : Grown heap heap' key next) (hready : Ready scope heap key) (k : Nat)
    (r : Element) (hr : heap k = some r) : heap' k = some r := by
  have hold : k < key := by
    refine Nat.lt_of_not_le fun hge => ?_
    rw [hready.free k hge] at hr
    cases hr
  rw [h.old k hold, hr]

theorem Ready.grown (h : Ready scope heap key) (hgrown : Grown heap heap' key next) :
    Ready scope heap' next where
  free := hgrown.free
  definitions d hd := (h.definitions d hd).mono (hgrown.keeps h) (List.Subset.refl _)

variable {good : Heap → α → Prop} {good' : Heap → β → Prop}

theorem Makes.pure {a : α} (h : Ready scope heap key) (ha : good heap a) :
    Makes heap key good (.ok (a, key)) := by
  rintro b next heq
  cases heq
  exact ⟨heap, Grown.refl h, ha⟩

theorem Makes.bind {x : Except BuildError (α × Nat)}
    {y : α × Nat → Except BuildError (β × Nat)} (hx : Makes heap key good x)
    (hy : ∀ a heap' next, Grown heap heap' key next → good heap' a →
      Makes heap' next good' (y (a, next))) : Makes heap key good' (x >>= y) := by
  rintro b last heq
  cases x with
  | error e => cases heq
  | ok result =>
    obtain ⟨a, next⟩ := result
    obtain ⟨heap', hgrown, ha⟩ := hx a next rfl
    obtain ⟨heap'', hgrown', hb⟩ := hy a heap' next hgrown ha b last heq
    exact ⟨heap'', hgrown.trans hgrown', hb⟩

/-- The same after a step that makes no rules. -/
theorem Makes.after {γ : Type} {x : Except BuildError γ}
    {y : γ → Except BuildError (β × Nat)} (hy : ∀ c, x = .ok c → Makes heap key good' (y c)) :
    Makes heap key good' (x >>= y) := by
  cases x with
  | error e => exact fun _ _ heq => nomatch heq
  | ok c => exact hy c rfl

/-- The part of a blueprint, changed in a way that keeps assemblies. -/
theorem Makes.map {opened : List (String × Nat)} {x : Except BuildError (Part × Nat)}
    {f : Part → Part} (h : Ready scope heap key)
    (hx : Makes heap key (fun heap p => Assembled heap opened p) x)
    (hf : ∀ heap p, Assembled heap opened p → Assembled heap opened (f p)) :
    Makes heap key (fun heap p => Assembled heap opened p)
      (x >>= fun (p, key) => .ok (f p, key)) :=
  hx.bind fun p heap' _ hgrown hp => Makes.pure (h.grown hgrown) (hf heap' p hp)

/-- The parts of two blueprints, put together in a way that keeps assemblies. -/
theorem Makes.map₂ {opened : List (String × Nat)} {x : Except BuildError (Part × Nat)}
    {y : Nat → Except BuildError (Part × Nat)} {f : Part → Part → Part}
    (h : Ready scope heap key)
    (hx : Makes heap key (fun heap p => Assembled heap opened p) x)
    (hy : ∀ heap key, Ready scope heap key →
      Makes heap key (fun heap p => Assembled heap opened p) (y key))
    (hf : ∀ heap p q, Assembled heap opened p → Assembled heap opened q →
      Assembled heap opened (f p q)) :
    Makes heap key (fun heap p => Assembled heap opened p)
      (x >>= fun (p, key) => y key >>= fun (q, key) => .ok (f p q, key)) := by
  refine hx.bind fun p heap' next hgrown hp => ?_
  have hready := h.grown hgrown
  refine (hy heap' next hready).bind fun q heap'' last hgrown' hq => ?_
  have hp' := hp.mono (hgrown'.keeps hready) (List.Subset.refl _)
  exact Makes.pure (hready.grown hgrown') (hf heap'' p q hp' hq)

/-- A rule is made: its key is the first free one, and its body comes after it. -/
theorem Makes.recursive {name : String} {x : Except BuildError (Part × Nat)}
    (h : Ready scope heap key)
    (hx : Makes heap (key + 1) (fun heap p => Assembled heap ((name, key) :: scope.rules) p) x) :
    Makes heap key (fun heap p => Assembled heap scope.rules p)
      (x >>= fun (p, next) => .ok (.rule key name p, next)) := by
  rintro rule next heq
  cases x with
  | error e => cases heq
  | ok result =>
    obtain ⟨p, next⟩ := result
    obtain ⟨heap', hgrown, hp⟩ := hx p next rfl
    cases heq
    let address : Heap := fun k => if k = key then some (Part.rule key name p).element else heap' k
    -- The body was made without the key, so that nothing is lost in its place.
    have hfree : heap' key = none := by
      rw [hgrown.old key (Nat.lt_succ_self key), h.free key (Nat.le_refl key)]
    have hkeeps : ∀ k r, heap' k = some r → address k = some r := by
      intro k r hr
      have hne : k ≠ key := by
        rintro rfl
        rw [hfree] at hr
        cases hr
      simp only [address, if_neg hne, hr]
    have haddress : address key = some (Part.rule key name p).element := by simp [address]
    have hle := hgrown.le
    refine ⟨address, ⟨by omega, ?_, ?_⟩, ?_⟩
    · intro k hk
      have hne : k ≠ key := by omega
      simp only [address, if_neg hne]
      exact hgrown.old k (by omega)
    · intro k hk
      have hne : k ≠ key := by omega
      simp only [address, if_neg hne]
      exact hgrown.free k hk
    · exact .recursive (hp.mono hkeeps (List.Subset.refl _)) haddress

theorem resolve_assembled (h : Ready scope heap key) {name : String} {p : Part}
    (hp : scope.resolve name = .ok p) : Assembled heap scope.rules p := by
  unfold Scope.resolve at hp
  split at hp
  · next target hlookup =>
    cases hp
    obtain ⟨before, after, hrules, -⟩ := List.lookup_eq_some_iff.mp hlookup
    exact .handle (by simp [hrules])
  · split at hp
    · next found hlookup =>
      cases hp
      obtain ⟨before, after, hdefinitions, -⟩ := List.lookup_eq_some_iff.mp hlookup
      have hmem : (name, p) ∈ scope.definitions := by simp [hdefinitions]
      exact (h.definitions _ hmem).mono (fun _ _ hr => hr) (List.nil_subset _)
    · cases hp

theorem separatedBy_assembled {opened : List (String × Nat)} {separator item : Part}
    (hseparator : Assembled heap opened separator) (hitem : Assembled heap opened item)
    (min : Nat) (max : Option Nat) :
    Assembled heap opened (.separatedBy separator item min max) := by
  refine .above ⟨rfl, rfl, rfl⟩ ?_
  rintro p (_ | ⟨_, _ | ⟨_, hp⟩⟩)
  · exact hitem
  · exact hseparator
  · cases hp

theorem wrap_assembled {opened : List (String × Nat)} (w : Wrapper) (layers : Nat) {p : Part}
    (hp : Assembled heap opened p) :
    Assembled heap opened (Nat.repeat (·.around w.apply) layers p) := by
  induction layers with
  | zero => exact hp
  | succ layers ih =>
    apply ih.around
    cases w with
    | alternation | sequence | flatSequence | rule | convert => exact ⟨rfl, rfl, rfl⟩

end

mutual

/-- A blueprint that takes nothing apart makes an assembly. -/
theorem build_assembled {scope : Scope} {heap : Heap} {key : Nat} (h : Ready scope heap key) :
    ∀ b : Blueprint, b.takesApart = false →
      Makes heap key (fun heap p => Assembled heap scope.rules p) (b.build scope key)
  | .literal _, _ | .endOfInput, _ => Makes.pure h (.leaf rfl rfl rfl)
  | .double, _ | .integer, _ => Makes.pure h (.twig rfl rfl rfl rfl rfl rfl)
  | .pattern _, _ | .regex _, _ | .groups _, _ =>
    Makes.after fun _ _ => Makes.pure h (.leaf rfl rfl rfl)
  | .sequence children, hb =>
    (buildAll_assembled h children hb).bind fun _ _ _ hgrown hps =>
      Makes.pure (h.grown hgrown) (.above ⟨rfl, rfl, rfl⟩ hps)
  | .alternation children, hb =>
    (buildAll_assembled h children hb).bind fun _ _ _ hgrown hps =>
      Makes.pure (h.grown hgrown) (.above ⟨rfl, rfl, rfl⟩ hps)
  | .plus a b, hb => by
    obtain ⟨ha, hb⟩ := Bool.or_eq_false_iff.mp hb
    exact Makes.map₂ h (build_assembled h a ha) (fun _ _ h' => build_assembled h' b hb)
      fun _ _ _ => .plus
  | .orElse a b, hb => by
    obtain ⟨ha, hb⟩ := Bool.or_eq_false_iff.mp hb
    exact Makes.map₂ h (build_assembled h a ha) (fun _ _ h' => build_assembled h' b hb)
      fun _ _ _ => .orElse
  | .repetition b _ _, hb | .optional b, hb | .oneOrMore b, hb | .zeroOrMore b, hb
  | .convert b _, hb =>
    Makes.map h (build_assembled h b hb) fun _ _ hp => hp.around ⟨rfl, rfl, rfl⟩
  | .separated b min max, hb =>
    Makes.map h (build_assembled h b hb) fun _ _ hp =>
      separatedBy_assembled (.leaf rfl rfl rfl) hp min max
  | .separatedBy item separator min max, hb => by
    obtain ⟨hitem, hseparator⟩ := Bool.or_eq_false_iff.mp hb
    exact Makes.map₂ h (build_assembled h item hitem)
      (fun _ _ h' => build_assembled h' separator hseparator)
      fun _ _ _ hp hq => separatedBy_assembled hq hp min max
  | .recursive name b, hb => by
    have hfree : ∀ k, key + 1 ≤ k → heap k = none := fun k hk => h.free k (by omega)
    have hinner : Ready { scope with rules := (name, key) :: scope.rules } heap (key + 1) :=
      ⟨hfree, h.definitions⟩
    exact Makes.recursive h (build_assembled hinner b hb)
  | .ref _, _ => Makes.after fun _ hp => Makes.pure h (resolve_assembled h hp)
  | .strip b, hb | .flatten b, hb | .withId b _, hb =>
    Makes.map h (build_assembled h b hb) fun _ _ hp => .redecorated _ hp
  | .wrap w layers b, hb =>
    Makes.map h (build_assembled h b hb) fun _ _ hp => wrap_assembled w layers hp

theorem buildAll_assembled {scope : Scope} {heap : Heap} {key : Nat} (h : Ready scope heap key) :
    ∀ bs : List Blueprint, anyTakesApart bs = false →
      Makes heap key (fun heap ps => ∀ p ∈ ps, Assembled heap scope.rules p)
        (buildAll scope key bs)
  | [], _ => Makes.pure h (by simp)
  | b :: rest, hbs => by
    obtain ⟨hb, hrest⟩ := Bool.or_eq_false_iff.mp hbs
    refine (build_assembled h b hb).bind fun p heap' next hgrown hp => ?_
    have hready := h.grown hgrown
    refine (buildAll_assembled hready rest hrest).bind fun ps heap'' last hgrown' hps => ?_
    have hp' := hp.mono (hgrown'.keeps hready) (List.Subset.refl _)
    exact Makes.pure (hready.grown hgrown') (List.forall_mem_cons.mpr ⟨hp', hps⟩)

end

/-- Definitions are made one after the other, and stay. -/
theorem buildDefinitions_ready {scope scope' : Scope} {heap : Heap} {key next : Nat}
    {definitions : List (String × Blueprint)} (h : Ready scope heap key)
    (hrules : scope.rules = []) (hdefs : ∀ d ∈ definitions, d.2.takesApart = false)
    (hbuild : buildDefinitions scope key definitions = .ok (scope', next)) :
    ∃ heap', Ready scope' heap' next ∧ scope'.rules = [] := by
  induction definitions generalizing scope heap key with
  | nil =>
    cases hbuild
    exact ⟨heap, h, hrules⟩
  | cons d rest ih =>
    obtain ⟨name, b⟩ := d
    obtain ⟨hb, hrest⟩ := List.forall_mem_cons.mp hdefs
    rw [buildDefinitions] at hbuild
    cases hmade : b.build scope key with
    | error e =>
      rw [hmade] at hbuild
      cases hbuild
    | ok result =>
      obtain ⟨p, middle⟩ := result
      rw [hmade] at hbuild
      obtain ⟨heap', hgrown, hp⟩ := build_assembled h b hb p middle hmade
      rw [hrules] at hp
      have hready := h.grown hgrown
      have hdefinitions : ∀ d ∈ (name, p) :: scope.definitions, Assembled heap' [] d.2 :=
        List.forall_mem_cons.mpr ⟨hp, hready.definitions⟩
      have hnext : Ready { scope with definitions := (name, p) :: scope.definitions } heap' middle :=
        ⟨hready.free, hdefinitions⟩
      exact ih hnext hrules hrest hbuild

/-- The grammar of a blueprint that takes nothing apart, with such definitions,
comes of an assembly. -/
theorem grammar_assembled {b : Blueprint} {definitions : List (String × Blueprint)} {g : Grammar}
    (hb : b.takesApart = false) (hdefs : ∀ d ∈ definitions, d.2.takesApart = false)
    (hbuild : b.grammar definitions = .ok g) :
    ∃ (heap : Heap) (root : Part) (others : List Part),
      (∀ p ∈ root :: others, Assembled heap [] p) ∧
        g = ⟨root.element, rulesAmong (root :: others)⟩ := by
  have hempty : Ready {} (fun _ => none) 0 := ⟨fun _ _ => rfl, by simp⟩
  unfold grammar at hbuild
  cases hmade : buildDefinitions {} 0 definitions with
  | error e =>
    rw [hmade] at hbuild
    cases hbuild
  | ok result =>
    obtain ⟨scope, key⟩ := result
    obtain ⟨heap, hready, hrules⟩ := buildDefinitions_ready hempty rfl hdefs hmade
    rw [hmade] at hbuild
    change (b.build scope key >>= _) = _ at hbuild
    cases hroot : b.build scope key with
    | error e =>
      rw [hroot] at hbuild
      cases hbuild
    | ok result =>
      obtain ⟨root, next⟩ := result
      obtain ⟨heap', hgrown, hp⟩ := build_assembled hready b hb root next hroot
      rw [hrules] at hp
      rw [hroot] at hbuild
      cases hbuild
      refine ⟨heap', root, scope.definitions.map (·.2), ?_, rfl⟩
      refine List.forall_mem_cons.mpr ⟨hp, ?_⟩
      intro p hp
      obtain ⟨d, hd, rfl⟩ := List.mem_map.mp hp
      exact (hready.grown hgrown).definitions d hd

end Blueprint

end Peg
