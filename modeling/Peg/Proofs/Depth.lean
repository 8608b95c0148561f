import Peg.Proofs.Dangling
import Peg.Proofs.Limits
import Peg.Proofs.Tokens

/-!
How deep a run is nested, told from the grammar alone.

The evaluation of an element begins with that of its first sub-element, whatever
the text is. So a chain of first sub-elements is opened from end to end before
anything is matched, and one that is longer than the recursion limit ends the run
with the error of a limit. The chain of a left-recursive element never ends. On the
other side, a run of an element without back-references is never nested deeper than
the element is high.
-/
namespace Peg

namespace Element

/-- The sub-element with which every evaluation of the element begins, if it has
one. A back-reference begins with its rule as long as that is held. -/
def first? (rules : RuleTable) (e : Element) : Option Element :=
  match e.kind with
  | .sequence children | .alternation children => children.head?
  | .repetition child _ max => if max = some 0 then none else some child
  | .separated item _ _ max => if max = some 0 then none else some item
  | .convert child _ _ => some child
  | .rule _ _ body => some body
  | .backref _ target => rules.lookup target
  | .literal _ | .pattern _ _ | .endOfInput => none

/-- The element that `n` steps from an element to its first sub-element lead to. It
is there exactly if the chain of these has more than `n` elements. -/
def descend? (rules : RuleTable) : Nat → Element → Option Element
  | 0, e => some e
  | n + 1, e => (e.first? rules).bind (descend? rules n)

mutual

/-- The number of levels of an element. Back-references are not followed. -/
def height : Element → Nat
  | node _ kind => heightBelow kind + 1

/-- The number of levels below a kind. -/
def heightBelow : Kind Element → Nat
  | .sequence children => heightAmong children
  | .alternation children => heightAmong children
  | .repetition child _ _ => child.height
  | .separated item separator _ _ => max item.height separator.height
  | .convert child _ _ => child.height
  | .rule _ _ body => body.height
  | .literal _ | .pattern _ _ | .endOfInput | .backref _ _ => 0

/-- The number of levels of the highest of several elements. -/
def heightAmong : List Element → Nat
  | [] => 0
  | e :: rest => max e.height (heightAmong rest)

end

theorem height_pos (e : Element) : 0 < e.height := by
  cases e with
  | node decor kind => exact Nat.succ_pos _

theorem height_le_heightAmong {e : Element} {es : List Element} (h : e ∈ es) :
    e.height ≤ heightAmong es := by
  induction es with
  | nil => cases h
  | cons d rest ih =>
    rw [heightAmong]
    rcases List.mem_cons.mp h with rfl | h
    · exact Nat.le_max_left _ _
    · exact Nat.le_trans (ih h) (Nat.le_max_right _ _)

theorem height_lt_of_mem_children {e d : Element} (h : d ∈ e.children) : d.height < e.height := by
  cases e with
  | node decor kind =>
    rw [height, Nat.lt_succ_iff]
    change d ∈ kind.children at h
    cases kind with
    | sequence children => exact height_le_heightAmong h
    | alternation children => exact height_le_heightAmong h
    | repetition child min max => exact List.mem_singleton.mp h ▸ Nat.le_refl _
    | separated item separator min max =>
      rcases List.mem_cons.mp h with rfl | h
      · exact Nat.le_max_left _ _
      · exact List.mem_singleton.mp h ▸ Nat.le_max_right _ _
    | convert child name f => exact List.mem_singleton.mp h ▸ Nat.le_refl _
    | rule key name body => exact List.mem_singleton.mp h ▸ Nat.le_refl _
    | literal _ | pattern _ _ | endOfInput | backref _ _ => cases h

end Element

namespace Eval

variable {σ α β : Type} {fault : ParseError} {s : State σ}

/-- The step ends in just this error. -/
def Breaks (fault : ParseError) (m : Eval σ α) (s : State σ) : Prop :=
  Leads m s (fun _ _ => False) fun e _ => e = fault

/-- Nothing that follows makes up for an error. -/
theorem Breaks.bind {m : Eval σ β} (h : Breaks fault m s) (k : β → Eval σ α) :
    Breaks fault (m >>= k) s := by
  unfold Breaks
  rw [leads_bind]
  exact h.imp fun _ _ => False.elim

theorem Breaks.of_error {m : Eval σ α} {t : State σ} (h : m s = .error fault t) :
    Breaks fault m s :=
  leads_error h rfl

theorem Breaks.exists_error {m : Eval σ α} (h : Breaks fault m s) :
    ∃ t, m s = .error fault t := by
  cases hm : m s with
  | ok a t => exact (h.of_ok hm).elim
  | error e t =>
    obtain rfl : e = fault := Leads.of_error h hm
    exact ⟨t, rfl⟩

end Eval

namespace Engine

open Eval

variable {σ : Type} {en : Engine σ} {sub : Sub σ} {fault : ParseError} {s : State σ}

theorem belowMax_zero {max : Option Nat} (h : max ≠ some 0) : belowMax max 0 = true := by
  cases max with
  | none => rfl
  | some n => exact decide_eq_true (Nat.pos_of_ne_zero fun hn => h (congrArg some hn))

/-- An element begins with its first sub-element before any fuel is spent on
another one, and it has no result if that has none. -/
theorem evalKind_breaks {e d : Element} (hfirst : e.first? en.rules = some d)
    (hd : ∀ u : State σ, u.fuel = s.fuel → Breaks fault (sub d) u) :
    Breaks fault (en.evalKind sub e) s := by
  obtain ⟨decor, kind⟩ := e
  cases kind with
  | literal _ => cases hfirst
  | pattern _ _ => cases hfirst
  | endOfInput => cases hfirst
  | sequence children =>
    obtain ⟨rest, rfl⟩ : ∃ rest, children = d :: rest := List.head?_eq_some_iff.mp hfirst
    exact ((hd { s with scanner := s.scanner.pushMark } rfl).bind _).bind _
  | alternation children =>
    obtain ⟨rest, rfl⟩ : ∃ rest, children = d :: rest := List.head?_eq_some_iff.mp hfirst
    exact (hd s rfl).bind _
  | repetition child min max =>
    obtain ⟨hmax, rfl⟩ : max ≠ some 0 ∧ child = d := by
      simpa [Element.first?, Element.kind] using hfirst
    -- The bound on the rounds does not keep the first one from being tried.
    have hround : Breaks fault (rounds sub child max (s.fuel + 1) 0 []) s := by
      unfold rounds
      rw [if_pos (belowMax_zero hmax)]
      exact (hd s rfl).bind _
    exact hround.bind _
  | separated item separator min max =>
    obtain ⟨hmax, rfl⟩ : max ≠ some 0 ∧ item = d := by
      simpa [Element.first?, Element.kind] using hfirst
    have hitem : Breaks fault (firstItem sub item max) s := by
      unfold firstItem
      rw [if_neg hmax]
      exact (hd s rfl).bind _
    exact hitem.bind _
  | convert child name f =>
    cases hfirst
    exact (hd { s with quiet := s.quiet + 1 } rfl).bind _
  | rule key name body =>
    cases hfirst
    exact hd s rfl
  | backref name target =>
    have hlookup : en.rules.lookup target = some d := hfirst
    change Breaks fault (en.backref sub name target) s
    unfold backref
    rw [hlookup]
    exact hd s rfl

/-- The error in which a chain ends that is longer than there is room for: the fuel
is looked at first, so it has to reach beyond the room. -/
def chainFault (en : Engine σ) (room fuel : Nat) : ParseError :=
  if room < fuel then .recursionLimit en.limits.depth else .fuelExhausted en.limits.fuel

/-- A chain of more than `room` elements does not fit. -/
theorem eval_breaks (room : Nat) (e : Element) (s : State σ)
    (h : (e.descend? en.rules room).isSome = true) :
    Breaks (en.chainFault room s.fuel) (en.eval room e) s := by
  -- Every level takes one unit of fuel and one of the room.
  induction room generalizing e s with
  | zero =>
    by_cases hfuel : s.fuel = 0
    · rw [chainFault, if_neg (by omega)]
      exact .of_error (eval_of_empty en e 0 hfuel)
    · rw [chainFault, if_pos (by omega)]
      exact .of_error (eval_of_full en e hfuel)
  | succ room ih =>
    by_cases hfuel : s.fuel = 0
    · rw [chainFault, if_neg (by omega)]
      exact .of_error (eval_of_empty en e (room + 1) hfuel)
    · obtain ⟨d, hfirst, hd⟩ : ∃ d, e.first? en.rules = some d ∧
          (d.descend? en.rules room).isSome = true := by
        obtain ⟨d', hd'⟩ := Option.isSome_iff_exists.mp h
        obtain ⟨d, hfirst, hd⟩ := Option.bind_eq_some_iff.mp hd'
        exact ⟨d, hfirst, Option.isSome_iff_exists.mpr ⟨d', hd⟩⟩
      -- One unit less of either leaves the comparison between them as it is.
      have hchain : en.chainFault (room + 1) s.fuel = en.chainFault room (s.fuel - 1) := by
        unfold chainFault
        congr 1
        exact propext (by omega)
      have hkind : Breaks (en.chainFault room (s.fuel - 1)) (en.evalKind (en.eval room) e)
          (s.opened en.tracer e) := by
        refine evalKind_breaks hfirst fun u hu => ?_
        have hfuel' : s.fuel - 1 = u.fuel := hu.symm
        rw [hfuel']
        exact ih d u hd
      rw [hchain]
      unfold Breaks Leads
      rw [eval_of_fuel en e room hfuel]
      exact hkind.bind _

/-- With as many levels left as the element has, no level is missing. -/
theorem eval_fits (room : Nat) (e : Element) (hbackref : e.all (!·.isBackref) = true)
    (hroom : e.height ≤ room) :
    Raises (fun fault => ∀ limit, fault ≠ .recursionLimit limit) (en.eval room e) := by
  induction room generalizing e with
  | zero => exact absurd e.height_pos (by omega)
  | succ room ih =>
    refine eval_succ_raises nofun (en.evalKind_raises ?_ ?_ fun _ => nofun)
    · intro d hd
      have hheight := Element.height_lt_of_mem_children hd
      exact ih d (Element.all_of_mem_children hbackref hd) (by omega)
    · intro name target hkind
      have hnone := Element.test_of_all hbackref
      simp [Element.isBackref, hkind] at hnone

end Engine

/-- A run is told to end in an error exactly if it does. -/
theorem Grammar.evaluateWith_eq_error_iff {σ : Type} {g : Grammar} {settings : Settings}
    {text : List Char} {tracer : Tracer σ} {init : σ} {fault : ParseError} :
    (g.evaluateWith settings text tracer init).1 = .error fault ↔
      ∃ t, Engine.run ⟨g.rules, settings.limits, tracer⟩ settings.requireEnd g.root
        (startState settings text init) = .error fault t := by
  rw [evaluateWith_eq_report]
  cases Engine.run ⟨g.rules, settings.limits, tracer⟩ settings.requireEnd g.root
      (startState settings text init) with
  | ok r t => simp [report]
  | error e t => simp [report]

/-- How deep a run is nested is bounded by the grammar. A chain of first sub-elements
that is longer than the recursion limit, as every chain of a left-recursive root is,
ends in the error of this limit, or in that of the fuel if the fuel does not reach
farther. A root without back-references that is no higher than the recursion limit
never exceeds it. -/
theorem nesting_is_bounded {σ : Type} (g : Grammar) (settings : Settings) (text : List Char)
    (tracer : Tracer σ) (init : σ) :
    let limits := settings.limits
    let result := (g.evaluateWith settings text tracer init).1
    ((g.root.descend? g.rules limits.depth).isSome = true →
        (limits.depth < limits.fuel → result = .error (.recursionLimit limits.depth)) ∧
          (limits.fuel ≤ limits.depth → result = .error (.fuelExhausted limits.fuel))) ∧
      (g.root.all (!·.isBackref) = true → g.root.height ≤ limits.depth →
        ∀ limit, result ≠ .error (.recursionLimit limit)) := by
  intro limits result
  let en : Engine σ := ⟨g.rules, limits, tracer⟩
  constructor
  · intro hchain
    have hroot : Eval.Breaks (en.chainFault limits.depth limits.fuel)
        (en.eval limits.depth g.root) (Grammar.startState settings text init) :=
      Engine.eval_breaks _ _ _ hchain
    have hrun : Eval.Breaks (en.chainFault limits.depth limits.fuel)
        (en.run settings.requireEnd g.root) (Grammar.startState settings text init) :=
      hroot.bind _
    have hresult : result = .error (en.chainFault limits.depth limits.fuel) :=
      Grammar.evaluateWith_eq_error_iff.mpr hrun.exists_error
    constructor
    · intro hless
      rw [hresult, Engine.chainFault, if_pos hless]
    · intro hless
      rw [hresult, Engine.chainFault, if_neg (Nat.not_lt.mpr hless)]
  · intro hbackref hheight limit hresult
    have hroot : Eval.Raises (fun fault => ∀ limit, fault ≠ .recursionLimit limit)
        (en.eval limits.depth g.root) := Engine.eval_fits _ _ hbackref hheight
    have hrun := Engine.run_raises (fun _ _ _ _ => nofun) hroot settings.requireEnd
    obtain ⟨t, hfault⟩ := Grammar.evaluateWith_eq_error_iff.mp hresult
    exact (hrun _).of_error hfault limit rfl

/-- Two rules that begin with each other, below a choice, a list and a typed leaf. -/
def leftRecursive : Grammar :=
  let ref (name : String) (key : Nat) : Element := .ofKind (.backref name key)
  let sum : Element := .ofKind (.rule (some 0) "sum"
    (.alternation [.sequence [ref "term" 1, .literal "+", ref "term" 1], ref "term" 1]))
  let term : Element := .ofKind (.rule (some 1) "term"
    (.convert (.separatedBy (.literal "*") (ref "sum" 0) 1 none) fun text => some (.text text)))
  ⟨sum, [(0, sum), (1, term)]⟩

/-- The two rules exceed every limit of their depth that the fuel reaches, whatever
the text is, while three levels suffice for a sequence of a repetition. -/
theorem leftRecursive_exceeds_limit :
    let flat : Grammar := ⟨.sequence [.literal "a", .zeroOrMore (.literal "b")], []⟩
    (∀ text, leftRecursive.evaluatePrefix { limits := ⟨100, 12⟩ } text =
        .error (.recursionLimit 12)) ∧
      (∀ text, leftRecursive.evaluatePrefix { limits := ⟨12, 12⟩ } text =
        .error (.fuelExhausted 12)) ∧
      ∀ text limit, flat.evaluatePrefix { limits := ⟨100, 3⟩ } text ≠
        .error (.recursionLimit limit) := by
  intro flat
  have hchain : (leftRecursive.root.descend? leftRecursive.rules 12).isSome = true := by
    decide
  refine ⟨?_, ?_, ?_⟩
  · intro text
    exact ((nesting_is_bounded leftRecursive _ text .silent ()).1 hchain).1 (by decide)
  · intro text
    exact ((nesting_is_bounded leftRecursive _ text .silent ()).1 hchain).2 (by decide)
  · intro text
    exact (nesting_is_bounded flat _ text .silent ()).2 (by decide) (by decide)

end Peg
