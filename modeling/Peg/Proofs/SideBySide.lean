import Peg.Proofs.Lockstep

/-!
Elements side by side.

Every kind of element is built from steps that keep the two runs in lockstep,
so an evaluation in the first run is matched by one in the second run, until
a limit of the second run cuts it short. No kind of element can go on from
there, as an error ends the whole run.
-/
namespace Peg.Pair

open Eval Event

variable {σ : Type} {p : Pair σ}

/-- The evaluations of sub-elements in the two runs, with `d` evaluations open.
Each one costs fuel. -/
structure Together (p : Pair σ) (d : Nat) (sub : Sub (List Event)) (sub' : Sub σ) : Prop where
  lockstep : ∀ e, p.Lockstep d d (sub e) (sub' e)
  spends : Spends sub
  spends' : Spends sub'

variable {d : Nat} {sub : Sub (List Event)} {sub' : Sub σ}

theorem allOf_lockstep (hsub : p.Together d sub sub') (items : List Value)
    (es : List Element) :
    p.Lockstep d d (Engine.allOf sub items es) (Engine.allOf sub' items es) := by
  induction es generalizing items with
  | nil => exact Lockstep.pure _
  | cons e rest ih =>
    refine (hsub.lockstep e).bind fun r => ?_
    cases r with
    | none => exact Lockstep.pure _
    | some out => exact ih _

theorem sequence_lockstep (hsub : p.Together d sub sub') (children : List Element) :
    p.Lockstep d d (p.first.sequence sub children) (p.second.sequence sub' children) := by
  refine Lockstep.look fun s t hscanner => ?_
  rw [hscanner]
  refine (Lockstep.setScanner _).bind fun _ => (allOf_lockstep hsub [] children).bind fun r => ?_
  cases r with
  | some items =>
    refine Lockstep.look fun s t hscanner => ?_
    rw [hscanner]
    exact (Lockstep.ofMarks _).bind fun _ => Lockstep.pure _
  | none =>
    refine Lockstep.cursor.bind fun start => Lockstep.look fun s t hscanner => ?_
    rw [hscanner]
    refine (Lockstep.ofMarks _).bind fun _ => (Lockstep.backtracked start).bind fun _ => ?_
    exact Lockstep.pure _

theorem firstOf_lockstep (hsub : p.Together d sub sub') (es : List Element) :
    p.Lockstep d d (Engine.firstOf sub es) (Engine.firstOf sub' es) := by
  induction es with
  | nil => exact Lockstep.pure _
  | cons e rest ih =>
    refine (hsub.lockstep e).bind fun r => ?_
    cases r with
    | none => exact ih
    | some out => exact Lockstep.pure _

theorem rounds_lockstep (hsub : p.Together d sub sub') (child : Element) (most : Option Nat)
    (bound count : Nat) (items : List Value) :
    p.Lockstep d d (Engine.rounds sub child most bound count items)
      (Engine.rounds sub' child most bound count items) := by
  induction bound generalizing count items with
  | zero => exact Lockstep.pure _
  | succ bound ih =>
    simp only [Engine.rounds]
    split
    · refine Lockstep.cursor.bind fun mark => (hsub.lockstep child).bind fun r => ?_
      cases r with
      | none => exact Lockstep.pure _
      | some out =>
        refine Lockstep.cursor.bind fun stop => ?_
        split
        · exact ih _ _
        · exact (Lockstep.reset mark).bind fun _ => Lockstep.pure _
    · exact Lockstep.pure _

theorem enough_lockstep (start : Cursor) (min : Nat) (result : Nat × List Value) :
    p.Lockstep d d (p.first.enough start min result) (p.second.enough start min result) := by
  unfold Engine.enough
  split
  · exact (Lockstep.rewind start).bind fun _ => Lockstep.pure _
  · exact Lockstep.pure _

theorem repetition_lockstep (hsub : p.Together d sub sub') (child : Element) (min : Nat)
    (most : Option Nat) :
    p.Lockstep d d (p.first.repetition sub child min most)
      (p.second.repetition sub' child min most) := by
  refine Lockstep.of_bound (repetition_eq p.first hsub.spends child min most)
    (repetition_eq p.second hsub.spends' child min most) fun bound => ?_
  refine Lockstep.cursor.bind fun start => ?_
  exact (rounds_lockstep hsub child most bound 0 []).bind fun r => enough_lockstep start min r

theorem moreItems_lockstep (hsub : p.Together d sub sub') (item separator : Element)
    (most : Option Nat) (bound count : Nat) (items : List Value) :
    p.Lockstep d d (p.first.moreItems sub item separator most bound count items)
      (p.second.moreItems sub' item separator most bound count items) := by
  induction bound generalizing count items with
  | zero => exact Lockstep.pure _
  | succ bound ih =>
    simp only [Engine.moreItems]
    split
    · refine Lockstep.cursor.bind fun mark => (hsub.lockstep separator).bind fun r => ?_
      cases r with
      | none => exact Lockstep.pure _
      | some sep =>
        refine (hsub.lockstep item).bind fun r => ?_
        cases r with
        | none => exact (Lockstep.rewind mark).bind fun _ => Lockstep.pure _
        | some out =>
          refine Lockstep.cursor.bind fun stop => ?_
          split
          · exact ih _ _
          · exact (Lockstep.rewind mark).bind fun _ => Lockstep.pure _
    · exact Lockstep.pure _

theorem firstItem_lockstep (hsub : p.Together d sub sub') (item : Element) (most : Option Nat) :
    p.Lockstep d d (Engine.firstItem sub item most) (Engine.firstItem sub' item most) := by
  unfold Engine.firstItem
  split
  · exact Lockstep.pure _
  · refine Lockstep.cursor.bind fun mark => (hsub.lockstep item).bind fun r => ?_
    cases r with
    | none => exact Lockstep.pure _
    | some out =>
      refine Lockstep.cursor.bind fun stop => ?_
      split
      · exact Lockstep.pure _
      · exact (Lockstep.reset mark).bind fun _ => Lockstep.pure _

theorem separated_lockstep (hsub : p.Together d sub sub') (item separator : Element) (min : Nat)
    (most : Option Nat) :
    p.Lockstep d d (p.first.separated sub item separator min most)
      (p.second.separated sub' item separator min most) := by
  refine Lockstep.of_bound (separated_eq p.first hsub.spends item separator min most)
    (separated_eq p.second hsub.spends' item separator min most) fun bound => ?_
  refine Lockstep.cursor.bind fun start => (firstItem_lockstep hsub item most).bind fun r => ?_
  obtain ⟨count, items⟩ := r
  dsimp only
  split
  · exact enough_lockstep start min _
  · refine (moreItems_lockstep hsub item separator most bound _ _).bind fun result => ?_
    exact enough_lockstep start min result

theorem literal_lockstep (e : Element) (text : String) :
    p.Lockstep d d (Engine.literal e text) (Engine.literal e text) := by
  refine Lockstep.look fun s t hscanner => ?_
  rw [hscanner]
  split
  · exact (Lockstep.setScanner _).bind fun _ => Lockstep.pure _
  · exact (Lockstep.record _ _).bind fun _ => Lockstep.pure _

theorem pattern_lockstep (e : Element) (regex : Regex) (capture : Capture) :
    p.Lockstep d d (Engine.pattern e regex capture) (Engine.pattern e regex capture) := by
  refine Lockstep.look fun s t hscanner => ?_
  rw [hscanner]
  split
  · exact (Lockstep.setScanner _).bind fun _ => Lockstep.pure _
  · exact (Lockstep.record _ _).bind fun _ => Lockstep.pure _

theorem endOfInput_lockstep (e : Element) :
    p.Lockstep d d (Engine.endOfInput e) (Engine.endOfInput e) := by
  refine Lockstep.look fun s t hscanner => ?_
  rw [hscanner]
  dsimp only
  split
  · exact (Lockstep.setScanner _).bind fun _ => Lockstep.pure _
  · exact (Lockstep.record _ _).bind fun _ => Lockstep.pure _

theorem convert_lockstep (hsub : p.Together d sub sub') (e child : Element)
    (f : String → Option Value) :
    p.Lockstep d d (Engine.convert sub e child f) (Engine.convert sub' e child f) := by
  refine Lockstep.cursor.bind fun mark => Lockstep.bind (Lockstep.quieten (· + 1)) fun _ => ?_
  refine (hsub.lockstep child).bind fun r => Lockstep.bind (Lockstep.quieten (· - 1)) fun _ => ?_
  refine Lockstep.look fun s t hscanner => ?_
  rw [hscanner]
  split
  · exact Lockstep.pure _
  · refine (Lockstep.reset mark).bind fun _ => Lockstep.skippedCursor.bind fun c => ?_
    exact (Lockstep.record c _).bind fun _ => Lockstep.pure _

theorem backref_lockstep (hsub : p.Together d sub sub') (name : String) (target : Nat) :
    p.Lockstep d d (p.first.backref sub name target) (p.second.backref sub' name target) := by
  have hrules : p.second.rules = p.first.rules := rfl
  unfold Engine.backref
  rw [hrules]
  split
  · exact hsub.lockstep _
  · exact Lockstep.throw _

theorem evalKind_lockstep (hsub : p.Together d sub sub') (e : Element) :
    p.Lockstep d d (p.first.evalKind sub e) (p.second.evalKind sub' e) := by
  unfold Engine.evalKind
  split
  · exact literal_lockstep e _
  · exact pattern_lockstep e _ _
  · exact sequence_lockstep hsub _
  · exact firstOf_lockstep hsub _
  · exact repetition_lockstep hsub _ _ _
  · exact separated_lockstep hsub _ _ _ _
  · exact convert_lockstep hsub e _ _
  · exact endOfInput_lockstep e
  · exact hsub.lockstep _
  · exact backref_lockstep hsub _ _

theorem close_lockstep (e : Element) (entry : Cursor) (r : Option Contribution) :
    p.Lockstep (d + 1) d (p.first.close e entry r) (p.second.close e entry r) := by
  cases r with
  | some out => exact (Lockstep.succeed e entry).bind fun _ => Lockstep.pure _
  | none => exact (Lockstep.fail e).bind fun _ => Lockstep.pure _

theorem history_opened (s : State (List Event)) (e : Element) :
    (s.opened p.first.tracer e).history = s.history ++ [.enter e s.scanner.position] :=
  List.reverse_cons

/-- Both runs open an evaluation. -/
theorem Abreast.opened {s : State (List Event)} {t : State σ} (h : p.Abreast d s t) (e : Element)
    (hs : s.fuel ≠ 0) (ht : t.fuel ≠ 0) (hd : d < p.limits'.depth) :
    p.Abreast (d + 1) (s.opened p.first.tracer e) (t.opened p.second.tracer e) := by
  have hfuel := h.fuel
  have hfuel' := h.fuel'
  have hopen : openAfter (s.opened p.first.tracer e).history = d + 1 := by
    rw [history_opened, openAfter_concat, h.open_eq]
    rfl
  have henters : enters (s.opened p.first.tracer e).history = enters s.history + 1 := by
    rw [history_opened, enters_concat]
    rfl
  refine ⟨h.scanner, h.quiet, h.furthest, congrArg (· + 1) h.depth, congrArg (· + 1) h.depth',
    hopen, ?_, ?_, ?_, ?_, ?_⟩
  · change s.fuel - 1 + _ = _
    omega
  · change t.fuel - 1 + _ = _
    omega
  · rw [history_opened, Tracer.replay_concat, ← h.level.trace_eq, ← h.scanner]
    rfl
  · omega
  · have hpeak := h.level.peak_le
    rw [history_opened] at hopen ⊢
    rw [peak_concat, hopen]
    omega

/-- The fuel of the second run is spent where the first run opens an evaluation. -/
theorem Abreast.cut_by_fuel {s u : State (List Event)} {t : State σ} (h : p.Abreast d s t)
    (e : Element) (hs : s.fuel ≠ 0) (ht : t.fuel = 0)
    (hu : (s.opened p.first.tracer e).trace <:+ u.trace) :
    p.CutAt u.history (.fuelExhausted p.limits'.fuel) t.trace s.history := by
  have hfuel' := h.fuel'
  have hgoes := history_mono hu
  rw [history_opened] at hgoes
  refine ⟨(List.prefix_append _ _).trans hgoes, h.level.trace_eq, ?_, Or.inl ⟨rfl, ?_, ?_⟩⟩
  · intro hlimits
    have := h.fuel_eq hlimits
    omega
  · omega
  · have henters := enters_mono hgoes
    rw [enters_concat, isEnter, if_pos rfl] at henters
    omega

/-- The second run is as deep as it may be where the first run opens an
evaluation. -/
theorem Abreast.cut_by_depth {s u : State (List Event)} {t : State σ} (h : p.Abreast d s t)
    (e : Element) (hd : d < p.limits.depth) (hd' : d = p.limits'.depth)
    (hu : (s.opened p.first.tracer e).trace <:+ u.trace) :
    p.CutAt u.history (.recursionLimit p.limits'.depth) t.trace s.history := by
  have hgoes := history_mono hu
  rw [history_opened] at hgoes
  refine ⟨(List.prefix_append _ _).trans hgoes, h.level.trace_eq, ?_, Or.inr ⟨rfl, ?_, ?_⟩⟩
  · intro hlimits
    rw [← hlimits] at hd'
    omega
  · rw [h.open_eq, hd']
  · have hopen := openAfter_le_peak hgoes
    rw [openAfter_concat, h.open_eq, Event.level] at hopen
    omega

/-- What an opened evaluation does, up to its end. -/
theorem body_lockstep (hsub : p.Together (d + 1) sub sub') (e : Element) (entry : Cursor) :
    p.Lockstep (d + 1) d (p.first.evalKind sub e >>= p.first.close e entry)
      (p.second.evalKind sub' e >>= p.second.close e entry) :=
  (evalKind_lockstep hsub e).bind fun r => close_lockstep e entry r

section Opening

variable {s : State (List Event)} {t : State σ} {e : Element} {room room' : Nat}

/-- The history of a run that opens an evaluation goes on from there. -/
theorem eval_goes_on (hsub : p.Together (d + 1) (p.first.eval room) sub') (hs : s.fuel ≠ 0) :
    Extends (p.first.eval (room + 1) e) s (s.opened p.first.tracer e).trace := by
  unfold Extends Leads
  rw [eval_of_fuel _ _ _ hs]
  exact (body_lockstep hsub e s.scanner.cursor).grows _

theorem extends_of_empty (hs : s.fuel = 0) : Extends (p.first.eval room e) s s.trace :=
  leads_error (eval_of_empty _ _ _ hs) List.suffix_rfl

/-- Without fuel the first run fails by a limit, so the second run has the same
limits and fails as well. -/
theorem eval_empty_agree (hst : p.Abreast d s t) (hs : s.fuel = 0)
    (hfair : p.Fair (p.first.eval room e s)) :
    p.Agree d (p.first.eval room e s) (p.second.eval room' e t) := by
  rw [eval_of_empty _ _ _ hs] at hfair ⊢
  have hlimits := hfair.limits_eq ⟨_, Or.inl rfl⟩
  have ht : t.fuel = 0 := (hst.fuel_eq hlimits).trans hs
  rw [eval_of_empty _ _ _ ht]
  change p.Agree d (.error (.fuelExhausted p.limits.fuel) s)
    (.error (.fuelExhausted p.limits'.fuel) t)
  rw [hlimits]
  exact Agree.error hst.level

/-- The same with an evaluation that would be too deep for the first run. -/
theorem eval_full_agree (hd : d = p.limits.depth) (hd' : d + room' = p.limits'.depth)
    (hst : p.Abreast d s t) (hs : s.fuel ≠ 0) (hfair : p.Fair (p.first.eval 0 e s)) :
    p.Agree d (p.first.eval 0 e s) (p.second.eval room' e t) := by
  rw [eval_of_full _ _ hs] at hfair ⊢
  have hlimits := hfair.limits_eq ⟨_, Or.inr rfl⟩
  have ht : t.fuel ≠ 0 := by
    rw [hst.fuel_eq hlimits]
    exact hs
  obtain rfl : room' = 0 := by
    rw [← hlimits] at hd'
    omega
  rw [eval_of_full _ _ ht]
  change p.Agree d (.error (.recursionLimit p.limits.depth) _)
    (.error (.recursionLimit p.limits'.depth) _)
  rw [hlimits]
  exact Agree.error hst.level

/-- Where both runs open the evaluation they go on abreast. -/
theorem eval_opened_agree (hsub : p.Together (d + 1) (p.first.eval room) (p.second.eval room'))
    (hst : p.Abreast d s t) (hs : s.fuel ≠ 0) (ht : t.fuel ≠ 0) (hd : d < p.limits'.depth)
    (hfair : p.Fair (p.first.eval (room + 1) e s)) :
    p.Agree d (p.first.eval (room + 1) e s) (p.second.eval (room' + 1) e t) := by
  rw [eval_of_fuel _ _ _ hs] at hfair ⊢
  rw [eval_of_fuel _ _ _ ht, hst.scanner]
  exact (body_lockstep hsub e s.scanner.cursor).agree _ _ (hst.opened e hs ht hd) hfair

end Opening

/-- The first run beside a copy of itself. -/
def alone (p : Pair σ) : Pair (List Event) :=
  ⟨p.rules, p.limits, p.limits, .recorder, []⟩

/-- The evaluations of an element in the two runs agree: both runs open them as
long as their limits allow it. -/
theorem eval_lockstep (p : Pair σ) (room room' : Nat) (hd : d + room = p.limits.depth)
    (hd' : d + room' = p.limits'.depth) (e : Element) :
    p.Lockstep d d (p.first.eval room e) (p.second.eval room' e) := by
  induction room generalizing σ p room' d e with
  | zero =>
    constructor
    · intro s
      by_cases hs : s.fuel = 0
      · exact extends_of_empty hs
      · exact leads_error (eval_of_full _ _ hs) List.suffix_rfl
    · intro s t hst hfair
      by_cases hs : s.fuel = 0
      · exact eval_empty_agree hst hs hfair
      · exact eval_full_agree hd hd' hst hs hfair
  | succ room ih =>
    -- The second run may have no room left, so this is taken from a copy of the first.
    have hgoes : ∀ s, s.fuel ≠ 0 →
        Extends (p.first.eval (room + 1) e) s (s.opened p.first.tracer e).trace := by
      have hd : d + 1 + room = p.alone.limits.depth := by
        change d + 1 + room = p.limits.depth
        omega
      have hcopy : p.alone.Together (d + 1) (p.first.eval room) (p.first.eval room) :=
        ⟨ih p.alone room hd hd, eval_spends _ _, eval_spends _ _⟩
      intro s hs
      exact eval_goes_on (p := p.alone) hcopy hs
    constructor
    · intro s
      by_cases hs : s.fuel = 0
      · exact extends_of_empty hs
      · refine Leads.mono (hgoes s hs) ?_ ?_
        · exact fun _ _ h => (List.suffix_cons _ _).trans h
        · exact fun _ _ h => (List.suffix_cons _ _).trans h
    · intro s t hst hfair
      by_cases hs : s.fuel = 0
      · exact eval_empty_agree hst hs hfair
      -- The fuel is looked at before the depth in either run.
      by_cases ht : t.fuel = 0
      · rw [eval_of_empty _ _ _ ht]
        exact Agree.of_cut (hgoes s hs) fun u hu => hst.cut_by_fuel e hs ht hu
      cases room' with
      | zero =>
        rw [eval_of_full _ _ ht]
        exact Agree.of_cut (hgoes s hs) fun u hu => hst.cut_by_depth e (by omega) hd' hu
      | succ room' =>
        have hsub : p.Together (d + 1) (p.first.eval room) (p.second.eval room') :=
          ⟨ih p room' (by omega) (by omega), eval_spends _ _, eval_spends _ _⟩
        exact eval_opened_agree hsub hst hs ht (by omega) hfair

theorem noMatch_lockstep {α : Type} :
    p.Lockstep d d (Engine.noMatch : Eval _ α) Engine.noMatch where
  grows _ := List.suffix_rfl
  agree s t hst _ := by
    change p.Agree d (.error s.furthest.error s) (.error t.furthest.error t)
    rw [hst.furthest]
    exact Agree.error hst.level

theorem demandEnd_lockstep : p.Lockstep d d Engine.demandEnd Engine.demandEnd := by
  refine Lockstep.look fun s t hscanner => ?_
  rw [hscanner]
  dsimp only
  refine (Lockstep.setScanner _).bind fun _ => ?_
  split
  · exact Lockstep.pure _
  · exact (Lockstep.record _ _).bind fun _ => noMatch_lockstep

/-- Two whole runs agree. -/
theorem run_lockstep (p : Pair σ) (requireEnd : Bool) (root : Element) :
    p.Lockstep 0 0 (p.first.run requireEnd root) (p.second.run requireEnd root) := by
  have hroot : p.Lockstep 0 0 (p.first.eval p.limits.depth root)
      (p.second.eval p.limits'.depth root) :=
    eval_lockstep p p.limits.depth p.limits'.depth (Nat.zero_add _) (Nat.zero_add _) root
  refine hroot.bind fun r => ?_
  cases r with
  | none => exact noMatch_lockstep
  | some out =>
    refine Lockstep.cursor.bind fun stop => ?_
    split
    · exact demandEnd_lockstep.bind fun _ => Lockstep.pure _
    · exact Lockstep.pure _

end Peg.Pair
