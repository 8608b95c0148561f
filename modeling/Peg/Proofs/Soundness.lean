import Peg.Proofs.Leaf

/-!
Every result of an evaluation has a derivation.

An evaluation that ends in a result also leaves the mark stack, the depth and
the other counters as it found them, and goes back to where it started if it
does not match. The two are proved together, as a sequence goes back by means
of the mark stack and every loop goes on from where its parts went back to.
-/
namespace Peg.BigStep

open Eval

variable {σ : Type} {k : Context} {room : Nat}

/-- All errors but a fault of the mark stack. -/
def Sane (e : ParseError) (_ : State σ) : Prop :=
  ∀ fault, e ≠ .scanner fault

/-- A derivation of `meaning` accounts for all that was spent between two
states, and it is at most `room` levels high. -/
def Within (room : Nat) (s t : State σ) (meaning : Nat → Nat → Prop) : Prop :=
  ∃ n h, Kept n s t ∧ h ≤ room ∧ meaning n h

/-- A step from `s` came to `r` in the state `t` as `meaning` says, and went
back to the cursor of `s` if it did not match. -/
def Settles (room : Nat) (s : State σ) (meaning : Outcome → Nat → Nat → Prop)
    (r : Option Contribution) (t : State σ) : Prop :=
  (r = none → t.scanner.cursor = s.scanner.cursor) ∧
    Within room s t (meaning (r.map (·, t.scanner.cursor)))

/-- The evaluation of sub-elements follows the rules. -/
def Follows (k : Context) (room : Nat) (sub : Sub σ) : Prop :=
  ∀ e s, contextOf k.rules s = k →
    Leads (sub e) s (Settles room s (Yields k e s.scanner.cursor)) Sane

theorem allOf_follows {sub : Sub σ} (hsub : Follows k room sub) (es : List Element)
    (items : List Value) (s : State σ) (hs : contextOf k.rules s = k) :
    Leads (Engine.allOf sub items es) s (fun r t =>
      ∃ o : Option (List Value), r = o.map (items.reverse ++ ·) ∧
      Within room s t (All (Yields k) es s.scanner.cursor (o.map (·, t.scanner.cursor))))
      Sane := by
  induction es generalizing items s with
  | nil => exact ⟨some [], by simp, 0, 0, Kept.refl s, Nat.zero_le _, All.nil _⟩
  | cons e rest ih =>
    unfold Engine.allOf
    rw [leads_bind]
    refine (hsub e s hs).imp ?_
    rintro (_ | out) t ⟨-, n, h, hkept, hroom, hfirst⟩
    · exact ⟨none, rfl, n, h, hkept, hroom, All.miss hfirst⟩
    · -- The first child has kept the context, so the others go on in it.
      refine (ih _ t ((contextOf_eq_of_kept hkept).trans hs)).imp ?_
      rintro r u ⟨o, rfl, n', h', hkept', hroom', hothers⟩
      refine ⟨o.map (out.items ++ ·), ?_, n + n', max h h', hkept.trans hkept', by omega, ?_⟩
      · cases o <;> simp
      · have hall := All.cons hfirst (adds_items out) hothers
        simpa only [Option.map_map, Function.comp_def] using hall

theorem popMark_of_marks {s : Scanner} {mark : Cursor} {marks : List Cursor}
    (h : s.marks = mark :: marks) : s.popMark = .ok { s with marks := marks } := by
  simp [Scanner.popMark, h]

theorem back_of_marks {s : Scanner} {mark : Cursor} {marks : List Cursor}
    (h : s.marks = mark :: marks) : s.back = .ok { s with cursor := mark, marks := marks } := by
  simp [Scanner.back, h]

/-- With its own mark off the stack, a sequence keeps what its children kept. -/
theorem kept_unmarked {n : Nat} {s t : State σ}
    (h : Kept n { s with scanner := s.scanner.pushMark } t) (c : Cursor) (trace : σ) :
    Kept n s { t with
      scanner := { t.scanner with cursor := c, marks := s.scanner.marks }, trace := trace } :=
  ⟨rfl, h.skip, h.suppressed, h.depth, h.quiet, h.fuel⟩

theorem sequence_follows (en : Engine σ) {sub : Sub σ} (hsub : Follows k room sub)
    (children : List Element) (s : State σ) (hs : contextOf k.rules s = k) :
    Leads (en.sequence sub children) s
      (Settles room s (OfKind (Yields k) k (.sequence children) s.scanner.cursor)) Sane := by
  unfold Engine.sequence
  simp only [leads_bind, leads_get, leads_setScanner]
  have hall := allOf_follows hsub children [] { s with scanner := s.scanner.pushMark } hs
  refine hall.imp ?_
  rintro r t ⟨o, rfl, n, h, hkept, hroom, hall⟩
  -- The children gave their marks back, so the top one is where the sequence started.
  have hmarks : t.scanner.marks = s.scanner.cursor :: s.scanner.marks := hkept.marks
  cases o with
  | none =>
    simp only [Option.map_none, leads_bind, leads_cursor, leads_get, back_of_marks hmarks,
      leads_ofMarks]
    refine leads_backtracked fun trace => ?_
    exact ⟨fun _ => rfl, n, h, kept_unmarked hkept _ trace, hroom, OfKind.sequence hall⟩
  | some items =>
    simp only [Option.map_some, leads_bind, leads_get, popMark_of_marks hmarks, leads_ofMarks,
      leads_pure]
    exact ⟨nofun, n, h, kept_unmarked hkept _ t.trace, hroom, OfKind.sequence hall⟩

theorem firstOf_follows {sub : Sub σ} (hsub : Follows k room sub) (es : List Element)
    (s : State σ) (hs : contextOf k.rules s = k) :
    Leads (Engine.firstOf sub es) s (Settles room s (First (Yields k) es s.scanner.cursor))
      Sane := by
  induction es generalizing s with
  | nil => exact ⟨fun _ => rfl, 0, 0, Kept.refl s, Nat.zero_le _, First.nil _⟩
  | cons e rest ih =>
    unfold Engine.firstOf
    rw [leads_bind]
    refine (hsub e s hs).imp ?_
    rintro (_ | out) t ⟨hback, n, h, hkept, hroom, hfirst⟩
    · refine (ih t ((contextOf_eq_of_kept hkept).trans hs)).imp ?_
      -- The child went back, so the next one is tried at the same place.
      have hcursor := hback rfl
      rintro r u ⟨hback', n', h', hkept', hroom', hothers⟩
      rw [hcursor] at hback' hothers
      exact ⟨hback', n + n', max h h', hkept.trans hkept', by omega, First.next hfirst hothers⟩
    · exact ⟨nofun, n, h, hkept, hroom, First.hit hfirst⟩

theorem belowMax_iff {most : Option Nat} {count : Nat} :
    belowMax most count = true ↔ Below most count := by
  cases most <;> simp [belowMax, Below]

/-- The bound on the rounds is never reached, as every round takes fuel. -/
theorem rounds_follows {sub : Sub σ} (hsub : Follows k room sub) (child : Element)
    (most : Option Nat) (bound count : Nat) (items : List Value) (s : State σ)
    (hs : contextOf k.rules s = k) (hbound : s.fuel < bound) :
    Leads (Engine.rounds sub child most bound count items) s (fun r t =>
      ∃ vs : List Value, r.2 = vs.reverse ++ items ∧
        Within room s t (Rounds (Yields k) count child most s.scanner.cursor r.1 vs
          t.scanner.cursor)) Sane := by
  induction bound generalizing count items s with
  | zero => omega
  | succ bound ih =>
    unfold Engine.rounds
    split
    · have hbelow : Below most count := belowMax_iff.mp ‹_›
      simp only [leads_bind, leads_cursor]
      refine (hsub child s hs).imp ?_
      rintro (_ | out) t ⟨hback, n, h, hkept, hroom, hfirst⟩
      · refine ⟨[], rfl, n, h, hkept, hroom, ?_⟩
        rw [hback rfl]
        exact Rounds.stop hbelow (Idle.miss hfirst)
      · simp only [leads_bind, leads_cursor]
        split
        · -- The round was paid for, so the smaller bound suffices for the fuel left.
          have hspent : t.fuel < bound := by
            have := hkept.fuel
            have := hfirst.size_pos
            omega
          refine (ih _ _ t ((contextOf_eq_of_kept hkept).trans hs) hspent).imp ?_
          rintro r u ⟨vs, hvs, n', h', hkept', hroom', hothers⟩
          refine ⟨out.items ++ vs, by simp [hvs], n + n', max h h', hkept.trans hkept',
            by omega, ?_⟩
          exact Rounds.round hbelow hfirst (adds_items out) ‹_› hothers
        · have hstop := Rounds.stop hbelow (Idle.still hfirst (by omega))
          exact ⟨[], rfl, n, h, hkept.moved _ _ _, hroom, hstop⟩
    · have hfull : ¬ Below most count := fun h => ‹¬ _› (belowMax_iff.mpr h)
      exact ⟨[], rfl, 0, 0, Kept.refl s, Nat.zero_le _, Rounds.full _ hfull⟩

/-- A loop with too few items goes back to its start, and any other one yields
its items. -/
theorem leads_enough (en : Engine σ) {start : Cursor} {min : Nat} {result : Nat × List Value}
    {s : State σ} {post : Option Contribution → State σ → Prop}
    {fault : ParseError → State σ → Prop}
    (hfew : result.1 < min →
      ∀ trace, post none { s with scanner := s.scanner.reset start, trace := trace })
    (henough : min ≤ result.1 → post (some (.one (.list result.2.reverse))) s) :
    Leads (en.enough start min result) s post fault := by
  unfold Engine.enough
  split
  · rw [leads_bind]
    exact leads_rewind (hfew ‹_›)
  · exact henough (by omega)

theorem repetition_follows (en : Engine σ) {sub : Sub σ} (hsub : Follows k room sub)
    (child : Element) (min : Nat) (most : Option Nat) (s : State σ)
    (hs : contextOf k.rules s = k) :
    Leads (en.repetition sub child min most) s
      (Settles room s (OfKind (Yields k) k (.repetition child min most) s.scanner.cursor))
      Sane := by
  unfold Engine.repetition
  simp only [leads_bind, leads_get]
  have hrounds := rounds_follows hsub child most (s.fuel + 1) 0 [] s hs (Nat.lt_succ_self _)
  refine hrounds.imp ?_
  rintro ⟨total, items⟩ t ⟨vs, hvs, n, h, hkept, hroom, hrounds⟩
  obtain rfl : items = vs.reverse := by simpa using hvs
  refine leads_enough en ?_ ?_
  · intro hfew trace
    exact ⟨fun _ => rfl, n, h, hkept.moved _ _ _, hroom, OfKind.fewRounds hrounds hfew⟩
  · intro henough
    refine ⟨nofun, n, h, hkept, hroom, ?_⟩
    rw [List.reverse_reverse]
    exact OfKind.repetition hrounds henough

theorem moreItems_follows (en : Engine σ) {sub : Sub σ} (hsub : Follows k room sub)
    (item separator : Element) (most : Option Nat) (bound count : Nat) (items : List Value)
    (s : State σ) (hs : contextOf k.rules s = k) (hbound : s.fuel < bound) :
    Leads (en.moreItems sub item separator most bound count items) s (fun r t =>
      ∃ vs : List Value, r.2 = vs.reverse ++ items ∧
        Within room s t (More (Yields k) count item separator most s.scanner.cursor r.1 vs
          t.scanner.cursor)) Sane := by
  induction bound generalizing count items s with
  | zero => omega
  | succ bound ih =>
    unfold Engine.moreItems
    split
    · have hbelow : Below most count := belowMax_iff.mp ‹_›
      simp only [leads_bind, leads_cursor]
      refine (hsub separator s hs).imp ?_
      rintro (_ | sep) t ⟨hback, n, h, hkept, hroom, hfirst⟩
      · refine ⟨[], rfl, n, h, hkept, hroom, ?_⟩
        rw [hback rfl]
        exact More.noSeparator hbelow hfirst
      · rw [leads_bind]
        refine (hsub item t ((contextOf_eq_of_kept hkept).trans hs)).imp ?_
        rintro (_ | out) u ⟨-, n', h', hkept', hroom', hsecond⟩
        · -- The separator is given back, though not the fuel that it took.
          rw [leads_bind]
          refine leads_rewind fun trace => ?_
          exact ⟨[], rfl, n + n', max h h', (hkept.trans hkept').moved _ _ _,
            by omega, More.noItem hbelow hfirst hsecond⟩
        · simp only [leads_bind, leads_cursor]
          split
          · have hspent : u.fuel < bound := by
              have := (hkept.trans hkept').fuel
              have := hfirst.size_pos
              omega
            have hu := (contextOf_eq_of_kept (hkept.trans hkept')).trans hs
            refine (ih _ _ u hu hspent).imp ?_
            rintro r v ⟨vs, hvs, n'', h'', hkept'', hroom'', hothers⟩
            refine ⟨sep.items ++ (out.items ++ vs), by simp [hvs], n + n' + n'',
              max (max h h') h'', (hkept.trans hkept').trans hkept'', by omega, ?_⟩
            exact More.item hbelow hfirst hsecond ‹_› (adds_items sep) (adds_items out) hothers
          · rw [leads_bind]
            refine leads_rewind fun trace => ?_
            exact ⟨[], rfl, n + n', max h h', (hkept.trans hkept').moved _ _ _,
              by omega, More.still hbelow hfirst hsecond (by omega)⟩
    · have hfull : ¬ Below most count := fun h => ‹¬ _› (belowMax_iff.mpr h)
      exact ⟨[], rfl, 0, 0, Kept.refl s, Nat.zero_le _, More.full _ hfull⟩

theorem firstItem_follows {sub : Sub σ} (hsub : Follows k room sub) (item separator : Element)
    (most : Option Nat) (s : State σ) (hs : contextOf k.rules s = k) :
    Leads (Engine.firstItem sub item most) s (fun r t =>
      (r = (0, []) ∧ t.scanner.cursor = s.scanner.cursor ∧
        Within room s t (Listed (Yields k) item separator most s.scanner.cursor 0 []
          s.scanner.cursor)) ∨
      ∃ out : Contribution, r = (1, out.items.reverse) ∧ most ≠ some 0 ∧
        s.scanner.cursor.offset < t.scanner.cursor.offset ∧
        Within room s t (Yields k item s.scanner.cursor (some (out, t.scanner.cursor))))
      Sane := by
  unfold Engine.firstItem
  split
  · subst most
    exact Or.inl ⟨rfl, rfl, 0, 0, Kept.refl s, Nat.zero_le _, Listed.closed _⟩
  · simp only [leads_bind, leads_cursor]
    refine (hsub item s hs).imp ?_
    rintro (_ | out) t ⟨hback, n, h, hkept, hroom, hfirst⟩
    · exact Or.inl ⟨rfl, hback rfl, n, h, hkept, hroom, Listed.empty ‹_› (Idle.miss hfirst)⟩
    · simp only [leads_bind, leads_cursor]
      split
      · exact Or.inr ⟨out, rfl, ‹_›, ‹_›, n, h, hkept, hroom, hfirst⟩
      · have hidle := Idle.still hfirst (Nat.le_of_not_lt ‹_›)
        exact Or.inl ⟨rfl, rfl, n, h, hkept.moved _ _ _, hroom, Listed.empty ‹_› hidle⟩

theorem separated_follows (en : Engine σ) {sub : Sub σ} (hsub : Follows k room sub)
    (item separator : Element) (min : Nat) (most : Option Nat) (s : State σ)
    (hs : contextOf k.rules s = k) :
    Leads (en.separated sub item separator min most) s
      (Settles room s (OfKind (Yields k) k (.separated item separator min most)
        s.scanner.cursor)) Sane := by
  unfold Engine.separated
  simp only [leads_bind, leads_get]
  refine (firstItem_follows hsub item separator most s hs).imp ?_
  rintro r t (⟨rfl, hcursor, n, h, hkept, hroom, hlisted⟩ |
    ⟨out, rfl, hmost, hmoves, n, h, hkept, hroom, hfirst⟩)
  · rw [if_pos rfl]
    refine leads_enough en ?_ ?_
    · intro hfew trace
      exact ⟨fun _ => rfl, n, h, hkept.moved _ _ _, hroom, OfKind.fewItems hlisted hfew⟩
    · intro henough
      refine ⟨nofun, n, h, hkept, hroom, ?_⟩
      rw [hcursor]
      exact OfKind.separated hlisted henough
  · rw [if_neg Nat.one_ne_zero, leads_bind]
    have ht := (contextOf_eq_of_kept hkept).trans hs
    have hbound : t.fuel < s.fuel + 1 := by
      have := hkept.fuel
      omega
    have hmore := moreItems_follows en hsub item separator most (s.fuel + 1) 1
      out.items.reverse t ht hbound
    refine hmore.imp ?_
    rintro ⟨total, items⟩ u ⟨vs, hvs, n', h', hkept', hroom', hmore⟩
    have hlisted := Listed.item hmost hfirst hmoves (adds_items out) hmore
    have hroom'' : max h h' ≤ room := by omega
    refine leads_enough en ?_ ?_
    · intro hfew trace
      exact ⟨fun _ => rfl, n + n', max h h', (hkept.trans hkept').moved _ _ _, hroom'',
        OfKind.fewItems hlisted hfew⟩
    · intro henough
      refine ⟨nofun, n + n', max h h', hkept.trans hkept', hroom'', ?_⟩
      obtain rfl : items = vs.reverse ++ out.items.reverse := hvs
      rw [List.reverse_append, List.reverse_reverse, List.reverse_reverse]
      exact OfKind.separated hlisted henough

/-- The outcome of a leaf, with the rule that accounts for it. -/
theorem Settles.of_reaches {s t : State σ} {o : Outcome} {r : Option Contribution}
    {meaning : Outcome → Nat → Nat → Prop} (hmeaning : meaning o 0 0)
    (h : Reaches 0 s o r t) : Settles room s meaning r t := by
  obtain ⟨hkept, rfl, hback⟩ := h
  exact ⟨hback, 0, 0, hkept, Nat.zero_le _, hmeaning⟩

theorem literal_follows (e : Element) (text : String) (s : State σ)
    (hs : contextOf k.rules s = k) :
    Leads (Engine.literal e text) s
      (Settles room s (OfKind (Yields k) k (.literal text) s.scanner.cursor)) Sane := by
  refine (literal_reaches e text hs).imp fun r t => Settles.of_reaches ?_
  have hskips := skips_skipped k s.scanner.cursor
  cases hdrop : Scanner.dropWord? text.toList (k.skipped s.scanner.cursor).after with
  | none =>
    refine OfKind.noLiteral hskips fun stop hpasses => ?_
    exact Scanner.dropWord?_eq_none_iff.mp hdrop (Cursor.exists_passes_iff.mp ⟨stop, hpasses⟩)
  | some rest =>
    exact OfKind.literal hskips (Cursor.passes_past (Scanner.dropWord?_eq_some_iff.mp hdrop))

theorem pattern_follows (e : Element) (regex : Regex) (capture : Capture) (s : State σ)
    (hs : contextOf k.rules s = k) :
    Leads (Engine.pattern e regex capture) s
      (Settles room s (OfKind (Yields k) k (.pattern regex capture) s.scanner.cursor)) Sane := by
  refine (pattern_reaches e regex capture hs).imp fun r t => Settles.of_reaches ?_
  have hskips := skips_skipped k s.scanner.cursor
  cases hmatch : regex.matchFrom (k.skipped s.scanner.cursor) with
  | none => exact OfKind.noPattern hskips hmatch
  | some m => exact OfKind.pattern hskips hmatch (gives_iff.mpr rfl)

theorem endOfInput_follows (e : Element) (s : State σ) (hs : contextOf k.rules s = k) :
    Leads (Engine.endOfInput e) s
      (Settles room s (OfKind (Yields k) k .endOfInput s.scanner.cursor)) Sane := by
  refine (endOfInput_reaches e hs).imp fun r t => Settles.of_reaches ?_
  have hskips := skips_skipped k s.scanner.cursor
  split
  · exact OfKind.endOfInput hskips ‹_›
  · exact OfKind.notEnd hskips ‹_›

/-- A typed leaf that is closed again keeps what its child kept. -/
theorem kept_loud {n : Nat} {s t : State σ} (h : Kept n { s with quiet := s.quiet + 1 } t) :
    Kept n s { t with quiet := t.quiet - 1 } :=
  ⟨h.marks, h.skip, h.suppressed, h.depth, by simp [h.quiet], h.fuel⟩

theorem convert_follows {sub : Sub σ} (hsub : Follows k room sub) (e child : Element)
    (name : Option String) (f : String → Option Value) (s : State σ)
    (hs : contextOf k.rules s = k) :
    Leads (Engine.convert sub e child f) s
      (Settles room s (OfKind (Yields k) k (.convert child name f) s.scanner.cursor)) Sane := by
  unfold Engine.convert
  simp only [leads_bind, leads_cursor, leads_modify, leads_get]
  refine (hsub child { s with quiet := s.quiet + 1 } hs).imp ?_
  rintro r t ⟨-, n, h, hkept, hroom, hinner⟩
  -- The leaf is closed again, whatever became of its child.
  have hclosed := kept_loud hkept
  have hmiss : OfKind (Yields k) k (.convert child name f) s.scanner.cursor none n h →
      Leads (do
        reset s.scanner.cursor
        record (← skippedCursor) fun _ => e.label
        return none : Eval σ (Option Contribution)) { t with quiet := t.quiet - 1 }
        (Settles room s (OfKind (Yields k) k (.convert child name f) s.scanner.cursor))
        Sane := by
    intro hmiss
    simp only [leads_bind, leads_reset, leads_skippedCursor]
    refine leads_record fun note => ?_
    exact ⟨fun _ => rfl, n, h, hclosed.moved _ _ _, hroom, hmiss⟩
  cases r with
  | none => exact hmiss (OfKind.noConvert hinner)
  | some out =>
    have ht := (contextOf_eq_of_kept hkept).trans hs
    simp only [Option.bind_some, leafText_eq ht]
    cases hconv : f (k.token s.scanner.cursor t.scanner.cursor out) with
    | none => exact hmiss (OfKind.refused hinner hconv)
    | some v => exact ⟨nofun, n, h, hclosed, hroom, OfKind.convert hinner hconv⟩

theorem backref_follows (en : Engine σ) (hk : en.rules = k.rules) {sub : Sub σ}
    (hsub : Follows k room sub) (name : String) (target : Nat) (s : State σ)
    (hs : contextOf k.rules s = k) :
    Leads (en.backref sub name target) s
      (Settles room s (OfKind (Yields k) k (.backref name target) s.scanner.cursor)) Sane := by
  unfold Engine.backref
  rw [hk]
  split
  · refine (hsub _ s hs).imp ?_
    rintro r t ⟨hback, n, h, hkept, hroom, hinner⟩
    exact ⟨hback, n, h, hkept, hroom, OfKind.backref ‹_› hinner⟩
  · exact nofun

theorem evalKind_follows (en : Engine σ) (hk : en.rules = k.rules) {sub : Sub σ}
    (hsub : Follows k room sub) (e : Element) (s : State σ) (hs : contextOf k.rules s = k) :
    Leads (en.evalKind sub e) s
      (Settles room s (OfKind (Yields k) k e.kind s.scanner.cursor)) Sane := by
  unfold Engine.evalKind
  cases e.kind with
  | literal text => exact literal_follows e text s hs
  | pattern regex capture => exact pattern_follows e regex capture s hs
  | sequence children => exact sequence_follows en hsub children s hs
  | alternation children =>
    refine (firstOf_follows hsub children s hs).imp ?_
    rintro r t ⟨hback, n, h, hkept, hroom, hfirst⟩
    exact ⟨hback, n, h, hkept, hroom, OfKind.alternation hfirst⟩
  | repetition child min most => exact repetition_follows en hsub child min most s hs
  | separated item separator min most =>
    exact separated_follows en hsub item separator min most s hs
  | convert child name f => exact convert_follows hsub e child name f s hs
  | endOfInput => exact endOfInput_follows e s hs
  | rule key name body =>
    refine (hsub body s hs).imp ?_
    rintro r t ⟨hback, n, h, hkept, hroom, hinner⟩
    exact ⟨hback, n, h, hkept, hroom, OfKind.rule hinner⟩
  | backref name target => exact backref_follows en hk hsub name target s hs

/-- An evaluation that was paid for, opened and closed costs one unit more than
what was evaluated in it. -/
theorem kept_closed {n : Nat} {s t : State σ} {trace : σ} (hfuel : s.fuel ≠ 0)
    (h : Kept n { s with fuel := s.fuel - 1, depth := s.depth + 1, trace := trace } t)
    (trace' : σ) : Kept (n + 1) s { t with depth := t.depth - 1, trace := trace' } where
  marks := h.marks
  skip := h.skip
  suppressed := h.suppressed
  depth := by simp [h.depth]
  quiet := h.quiet
  fuel := by
    have hspent : t.fuel + n = s.fuel - 1 := h.fuel
    change t.fuel + (n + 1) = s.fuel
    omega

/-- Every result of an evaluation has a derivation: as many elements as fuel
was spent, and no higher than the room that was left. -/
theorem eval_follows (en : Engine σ) (hk : en.rules = k.rules) (room : Nat) :
    Follows k room (en.eval room) := by
  induction room with
  | zero =>
    intro e s _
    unfold Engine.eval
    rw [leads_bind, leads_spend]
    split
    · exact nofun
    · exact nofun
  | succ room ih =>
    intro e s hs
    unfold Engine.eval
    rw [leads_bind, leads_spend]
    split
    · exact nofun
    · simp only [leads_bind, leads_cursor]
      refine leads_enter fun trace => ?_
      -- One unit of fuel is paid and one evaluation is open.
      have hinner := evalKind_follows en hk ih e
        { s with fuel := s.fuel - 1, depth := s.depth + 1, trace := trace } hs
      refine hinner.imp ?_
      rintro r t ⟨hback, n, h, hkept, hroom, hkind⟩
      have hclosed := kept_closed ‹_› hkept
      have hnode := Yields.node hkind
      cases r with
      | none =>
        rw [leads_bind]
        refine leads_fail fun trace => ?_
        exact ⟨hback, n + 1, h + 1, hclosed _, by omega, hnode⟩
      | some out =>
        rw [leads_bind]
        refine leads_succeed fun trace => ?_
        exact ⟨nofun, n + 1, h + 1, hclosed _, by omega, hnode⟩

end Peg.BigStep
