import Peg.Proofs.Lockstep
import Peg.Proofs.Walk

/-!
Every recorded evaluation is a walk.

What is added to the history of a run by an evaluation are the events of a
walk from where it starts to where it stops, and what it adds to the furthest
failure are the notes of this walk, unless a typed leaf is open. An error is
met in the middle of a walk, which is broken off there.
-/
namespace Peg

/-- The furthest failure after some notes, which are not taken inside a typed leaf. -/
def State.noted {σ : Type} (s : State σ) (ns : List Note) : Furthest :=
  if s.quiet = 0 then ns.foldl Furthest.note s.furthest else s.furthest

namespace BigStep

open Eval

variable {k : Context}

/-- From `s` to `t` a recorded run went the way of a walk. -/
structure Trip (k : Context) (s t : State (List Event)) (es : List Event) (ns : List Note) :
    Prop where
  skip : t.scanner.skip = s.scanner.skip
  suppressed : t.scanner.suppressed = s.scanner.suppressed
  quiet : t.quiet = s.quiet
  history : t.history = s.history ++ es
  walk : Walk k s.scanner.cursor t.scanner.cursor es ns
  furthest : t.furthest = s.noted ns

/-- A recorded run went from `s` to `t`. -/
def Toured (k : Context) (s t : State (List Event)) : Prop :=
  ∃ es ns, Trip k s t es ns

/-- A recorded run from `s` was ended by a fatal error. -/
def Broken (k : Context) (s : State (List Event)) (e : ParseError) (t : State (List Event)) :
    Prop :=
  e.isNoMatch = false ∧ ∃ es, t.history = s.history ++ es ∧ Cut k s.scanner.cursor es

/-- How an evaluation leaves the scanner: with the same marks, and not moved
back or, if it fails, not moved at all. -/
structure Stops (s : State (List Event)) (r : Option Contribution) (t : State (List Event)) :
    Prop where
  marks : t.scanner.marks = s.scanner.marks
  ahead : s.scanner.cursor.Ahead t.scanner.cursor
  back : r = none → t.scanner.cursor = s.scanner.cursor

/-- A recorded run went from `s` to `t` and, if it came to nothing, back again. -/
def Circled (k : Context) (s : State (List Event)) (r : Option Contribution)
    (t : State (List Event)) : Prop :=
  Toured k s t ∧ (r = none → t.scanner.cursor = s.scanner.cursor)

/-- What happens between the opening and the end of an evaluation of `e`: a walk
as far as `l`, and the notes that become of its notes. -/
structure Inside (k : Context) (e : Element) (s t : State (List Event)) (matched : Bool)
    (es : List Event) (ns : List Note) (l : Cursor) : Prop where
  skip : t.scanner.skip = s.scanner.skip
  suppressed : t.scanner.suppressed = s.scanner.suppressed
  quiet : t.quiet = s.quiet
  history : t.history = s.history ++ es
  walk : Walk k s.scanner.cursor l es ns
  leaf : e.isLeaf = true → es = []
  hit : matched = true → e.isLeaf = false → l = t.scanner.cursor
  miss : matched = false → e.isTyped = false → l = s.scanner.cursor
  furthest : t.furthest = s.noted (k.notes e s.scanner.cursor matched ns)

/-- The evaluations of sub-elements are walks. -/
def Tours (k : Context) (sub : Sub (List Event)) : Prop :=
  ∀ e s, contextOf k.rules s = k →
    Leads (sub e) s (fun r t => Stops s r t ∧ Toured k s t) (Broken k s)

variable {s t u : State (List Event)}

theorem State.noted_nil (s : State (List Event)) : s.noted [] = s.furthest := by
  unfold State.noted
  split
  · rfl
  · rfl

theorem Toured.refl (s : State (List Event)) : Toured k s s :=
  ⟨[], [], rfl, rfl, rfl, (List.append_nil _).symm, Walk.stay _, (State.noted_nil s).symm⟩

theorem Toured.trans (hst : Toured k s t) (htu : Toured k t u) : Toured k s u := by
  obtain ⟨es, ns, hst⟩ := hst
  obtain ⟨es', ns', htu⟩ := htu
  refine ⟨es ++ es', ns ++ ns', htu.skip.trans hst.skip, htu.suppressed.trans hst.suppressed,
    htu.quiet.trans hst.quiet, ?_, hst.walk.trans htu.walk, ?_⟩
  · rw [htu.history, hst.history, List.append_assoc]
  · have hfirst := hst.furthest
    have hsecond := htu.furthest
    unfold State.noted at hfirst hsecond ⊢
    rw [hst.quiet] at hsecond
    rw [hsecond, hfirst, List.foldl_append]
    split
    · rfl
    · rfl

theorem Toured.context (hst : Toured k s t) (hs : contextOf k.rules s = k) :
    contextOf k.rules t = k := by
  obtain ⟨es, ns, hst⟩ := hst
  have hsame : contextOf k.rules t = contextOf k.rules s := by
    simp [contextOf, hst.skip, hst.suppressed]
  exact hsame.trans hs

/-- Back at the start, the scanner skips what it skipped there. -/
theorem skippedCursor_reset (hs : contextOf k.rules s = k)
    (hskip : t.scanner.skip = s.scanner.skip)
    (hsuppressed : t.scanner.suppressed = s.scanner.suppressed) :
    (t.scanner.reset s.scanner.cursor).skippedCursor = k.skipped s.scanner.cursor := by
  rw [← skippedCursor_eq hs, Scanner.skippedCursor, Scanner.skippedCursor]
  simp only [Scanner.reset, hskip, hsuppressed]

/-- What is broken off after a tour is broken off on the whole way. -/
theorem Toured.broken (hst : Toured k s t) {e : ParseError} (hbroken : Broken k t e u) :
    Broken k s e u := by
  obtain ⟨es, ns, hst⟩ := hst
  obtain ⟨hfatal, es', hhistory, hcut⟩ := hbroken
  refine ⟨hfatal, es ++ es', ?_, hst.walk.cut hcut⟩
  rw [hhistory, hst.history, List.append_assoc]

/-- The marks, the fuel and the depth do not count. -/
theorem Toured.remarked (hst : Toured k s t) (marks : List Cursor) :
    Toured k s { t with scanner := { t.scanner with marks := marks } } := by
  obtain ⟨es, ns, hst⟩ := hst
  exact ⟨es, ns, hst.skip, hst.suppressed, hst.quiet, hst.history, hst.walk, hst.furthest⟩

/-- Follows a sub-element to what comes after it. -/
theorem Tours.step {sub : Sub (List Event)} (hsub : Tours k sub) (hs : contextOf k.rules s = k)
    (hst : Toured k s t) {e : Element} {post : Option Contribution → State (List Event) → Prop}
    (hpost : ∀ r u, Stops t r u → Toured k s u → post r u) :
    Leads (sub e) t post (Broken k s) := by
  refine (hsub e t (hst.context hs)).mono ?_ ?_
  · rintro r u ⟨hstops, htu⟩
    exact hpost r u hstops (hst.trans htu)
  · intro fault u hbroken
    exact hst.broken hbroken

/-- The scanner goes back, which is told if it moves. -/
theorem leads_retreat (hst : Toured k s t) (scanner : Scanner)
    (hskip : scanner.skip = t.scanner.skip)
    (hsuppressed : scanner.suppressed = t.scanner.suppressed)
    (hahead : scanner.cursor.Ahead t.scanner.cursor) {post : Unit → State (List Event) → Prop}
    {fault : ParseError → State (List Event) → Prop}
    (hpost : ∀ u, u.scanner = scanner → Toured k s u → post () u) :
    Leads (backtracked .recorder t.scanner.cursor) { t with scanner := scanner } post fault := by
  obtain ⟨es, ns, hst⟩ := hst
  unfold backtracked
  rw [leads_modify]
  dsimp only [Scanner.position]
  split
  · -- The scanner is where it was, so there is nothing to tell.
    have hsame : t.scanner.cursor = scanner.cursor := hahead.eq_of_offset (Nat.le_of_eq ‹_›)
    refine hpost _ rfl ⟨es, ns, hskip.trans hst.skip, hsuppressed.trans hst.suppressed, hst.quiet,
      hst.history, ?_, hst.furthest⟩
    exact hsame ▸ hst.walk
  · have hle := hahead.offset_le
    have hmoves : scanner.cursor.offset < t.scanner.cursor.offset := by omega
    have hback := hst.walk.trans (Walk.back hahead hmoves (Walk.stay _))
    rw [List.append_nil] at hback
    refine hpost _ rfl ⟨_, ns, hskip.trans hst.skip, hsuppressed.trans hst.suppressed, hst.quiet,
      ?_, hback, hst.furthest⟩
    have hhistory := hst.history
    unfold State.history at hhistory ⊢
    simp [Tracer.recorder, hhistory]

theorem rewind_tours {en : Engine (List Event)} (hen : en.tracer = .recorder)
    (hst : Toured k s t) {mark : Cursor} (hahead : mark.Ahead t.scanner.cursor)
    {post : Unit → State (List Event) → Prop} {fault : ParseError → State (List Event) → Prop}
    (hpost : ∀ u, u.scanner.cursor = mark → Toured k s u → post () u) :
    Leads (rewind en.tracer mark) t post fault := by
  unfold rewind
  simp only [leads_bind, leads_cursor, leads_reset, hen]
  apply leads_retreat hst (t.scanner.reset mark) rfl rfl hahead
  intro u hscanner hsu
  exact hpost u (by rw [hscanner]; rfl) hsu

section Composite

variable (en : Engine (List Event)) (hen : en.tracer = .recorder) {sub : Sub (List Event)}
  (hsub : Tours k sub) (hs : contextOf k.rules s = k)

include hsub hs

theorem allOf_tours (es : List Element) (items : List Value) (t : State (List Event))
    (hst : Toured k s t) :
    Leads (Engine.allOf sub items es) t (fun _ u => Toured k s u ∧
      u.scanner.marks = t.scanner.marks ∧ t.scanner.cursor.Ahead u.scanner.cursor)
      (Broken k s) := by
  induction es generalizing items t with
  | nil => exact ⟨hst, rfl, Cursor.Ahead.refl _⟩
  | cons e rest ih =>
    unfold Engine.allOf
    rw [leads_bind]
    refine hsub.step hs hst fun r u hstops hsu => ?_
    cases r with
    | none => exact ⟨hsu, hstops.marks, hstops.ahead⟩
    | some out =>
      refine (ih _ u hsu).imp ?_
      rintro r v ⟨hsv, hmarks, hahead⟩
      exact ⟨hsv, hmarks.trans hstops.marks, hstops.ahead.trans hahead⟩

include hen

theorem sequence_circled (children : List Element) :
    Leads (en.sequence sub children) s (Circled k s) (Broken k s) := by
  unfold Engine.sequence
  simp only [leads_bind, leads_get, leads_setScanner]
  have hpushed : Toured k s { s with scanner := s.scanner.pushMark } := (Toured.refl s).remarked _
  refine (allOf_tours hsub hs children [] _ hpushed).imp ?_
  rintro r t ⟨hst, hmarks, hahead⟩
  -- The children gave their marks back, so the top one is where the sequence started.
  have htop : t.scanner.marks = s.scanner.cursor :: s.scanner.marks := hmarks
  cases r with
  | some items =>
    simp only [leads_bind, leads_get, popMark_of_marks htop, leads_ofMarks, leads_pure]
    exact ⟨hst.remarked _, nofun⟩
  | none =>
    simp only [leads_bind, leads_cursor, leads_get, back_of_marks htop, leads_ofMarks, hen]
    let back : Scanner := { t.scanner with cursor := s.scanner.cursor, marks := s.scanner.marks }
    apply leads_retreat hst back rfl rfl hahead
    intro u hscanner hsu
    refine ⟨hsu, fun _ => ?_⟩
    rw [hscanner]

omit hen

theorem firstOf_circled (es : List Element) (t : State (List Event)) (hst : Circled k s none t) :
    Leads (Engine.firstOf sub es) t (Circled k s) (Broken k s) := by
  induction es generalizing t with
  | nil => exact hst
  | cons e rest ih =>
    unfold Engine.firstOf
    rw [leads_bind]
    refine hsub.step hs hst.1 fun r u hstops hsu => ?_
    cases r with
    | none =>
      -- The child went back, so the next one is tried at the same place.
      apply ih
      exact ⟨hsu, fun _ => (hstops.back rfl).trans (hst.2 rfl)⟩
    | some out =>
      refine ⟨hsu, ?_⟩
      intro hmissed
      cases hmissed

theorem rounds_tours (child : Element) (most : Option Nat) (bound count : Nat)
    (items : List Value) (t : State (List Event)) (hst : Toured k s t) :
    Leads (Engine.rounds sub child most bound count items) t (fun _ u => Toured k s u ∧
      t.scanner.cursor.Ahead u.scanner.cursor) (Broken k s) := by
  induction bound generalizing count items t with
  | zero => exact ⟨hst, Cursor.Ahead.refl _⟩
  | succ bound ih =>
    unfold Engine.rounds
    split
    · simp only [leads_bind, leads_cursor]
      refine hsub.step hs hst fun r u hstops hsu => ?_
      cases r with
      | none => exact ⟨hsu, hstops.ahead⟩
      | some out =>
        simp only [leads_bind, leads_cursor]
        split
        · refine (ih _ _ u hsu).imp ?_
          rintro r v ⟨hsv, hahead⟩
          exact ⟨hsv, hstops.ahead.trans hahead⟩
        · -- A round that stands still leaves nothing to go back from.
          have hstill := hstops.ahead.eq_of_offset (Nat.le_of_not_lt ‹_›)
          rw [leads_bind, leads_reset, leads_pure, ← hstill]
          exact ⟨hsu, Cursor.Ahead.refl _⟩
    · exact ⟨hst, Cursor.Ahead.refl _⟩

include hen

omit hsub hs in
theorem enough_circled (min : Nat) (result : Nat × List Value) (hst : Toured k s t)
    (hahead : s.scanner.cursor.Ahead t.scanner.cursor) :
    Leads (en.enough s.scanner.cursor min result) t (Circled k s) (Broken k s) := by
  unfold Engine.enough
  split
  · rw [leads_bind]
    exact rewind_tours hen hst hahead fun u hcursor hsu => ⟨hsu, fun _ => hcursor⟩
  · exact ⟨hst, nofun⟩

theorem repetition_circled (child : Element) (min : Nat) (most : Option Nat) :
    Leads (en.repetition sub child min most) s (Circled k s) (Broken k s) := by
  unfold Engine.repetition
  simp only [leads_bind, leads_get]
  refine (rounds_tours hsub hs child most _ 0 [] s (Toured.refl s)).imp ?_
  rintro result t ⟨hst, hahead⟩
  exact enough_circled en hen min result hst hahead

theorem moreItems_tours (item separator : Element) (most : Option Nat) (bound count : Nat)
    (items : List Value) (t : State (List Event)) (hst : Toured k s t) :
    Leads (en.moreItems sub item separator most bound count items) t (fun _ u => Toured k s u ∧
      t.scanner.cursor.Ahead u.scanner.cursor) (Broken k s) := by
  induction bound generalizing count items t with
  | zero => exact ⟨hst, Cursor.Ahead.refl _⟩
  | succ bound ih =>
    unfold Engine.moreItems
    split
    · simp only [leads_bind, leads_cursor]
      refine hsub.step hs hst fun r u hseparator hsu => ?_
      cases r with
      | none => exact ⟨hsu, hseparator.ahead⟩
      | some sep =>
        rw [leads_bind]
        refine hsub.step hs hsu fun r v hitem hsv => ?_
        have hahead := hseparator.ahead.trans hitem.ahead
        -- Wherever the item stops, the list can still go back to before the separator.
        have hback : Leads (do
            rewind en.tracer t.scanner.cursor
            return (count, items)) v (fun _ w => Toured k s w ∧
              t.scanner.cursor.Ahead w.scanner.cursor) (Broken k s) := by
          rw [leads_bind]
          apply rewind_tours hen hsv hahead
          intro w hcursor hsw
          exact ⟨hsw, hcursor ▸ Cursor.Ahead.refl _⟩
        cases r with
        | none => exact hback
        | some out =>
          simp only [leads_bind, leads_cursor]
          split
          · refine (ih _ _ v hsv).imp ?_
            rintro r w ⟨hsw, hahead'⟩
            exact ⟨hsw, hahead.trans hahead'⟩
          · exact hback
    · exact ⟨hst, Cursor.Ahead.refl _⟩

omit hen in
theorem firstItem_tours (item : Element) (most : Option Nat) :
    Leads (Engine.firstItem sub item most) s (fun _ t => Toured k s t ∧
      s.scanner.cursor.Ahead t.scanner.cursor) (Broken k s) := by
  unfold Engine.firstItem
  split
  · exact ⟨Toured.refl s, Cursor.Ahead.refl _⟩
  · simp only [leads_bind, leads_cursor]
    refine hsub.step hs (Toured.refl s) fun r t hstops hst => ?_
    cases r with
    | none => exact ⟨hst, hstops.ahead⟩
    | some out =>
      simp only [leads_bind, leads_cursor]
      split
      · exact ⟨hst, hstops.ahead⟩
      · have hstill := hstops.ahead.eq_of_offset (Nat.le_of_not_lt ‹_›)
        rw [leads_bind, leads_reset, leads_pure, ← hstill]
        exact ⟨hst, Cursor.Ahead.refl _⟩

theorem separated_circled (item separator : Element) (min : Nat) (most : Option Nat) :
    Leads (en.separated sub item separator min most) s (Circled k s) (Broken k s) := by
  unfold Engine.separated
  simp only [leads_bind, leads_get]
  refine (firstItem_tours hsub hs item most).imp ?_
  rintro ⟨count, items⟩ t ⟨hst, hahead⟩
  dsimp only
  split
  · exact enough_circled en hen min _ hst hahead
  · rw [leads_bind]
    refine (moreItems_tours en hen hsub hs item separator most _ count items t hst).imp ?_
    rintro result u ⟨hsu, hahead'⟩
    exact enough_circled en hen min result hsu (hahead.trans hahead')

end Composite

section Leaf

variable {e : Element} {fault : ParseError → State (List Event) → Prop}

theorem leads_noted {c : Cursor} {label : String} {post : Unit → State (List Event) → Prop} :
    Leads (record c fun _ => label) s post fault ↔
      post () { s with furthest := s.noted [⟨c, label⟩] } := by
  unfold record
  rw [leads_modify]
  unfold State.noted
  by_cases hquiet : s.quiet = 0
  · rw [if_neg (by omega), if_pos hquiet]
    rfl
  · rw [if_pos (by omega), if_neg hquiet]

/-- A leaf that matches moves the cursor and leaves no note. -/
theorem inside_moved (he : e.isLeaf = true) (d : Cursor) :
    Inside k e s { s with scanner := s.scanner.reset d } true [] [] s.scanner.cursor where
  skip := rfl
  suppressed := rfl
  quiet := rfl
  history := (List.append_nil _).symm
  walk := Walk.stay _
  leaf _ := rfl
  hit _ hleaf := by simp [he] at hleaf
  miss := nofun
  furthest := by simp [Context.notes, he, State.noted_nil]

/-- A leaf that fails leaves a note and stays. -/
theorem inside_noted (he : e.isLeaf = true) :
    Inside k e s { s with furthest := s.noted [⟨k.skipped s.scanner.cursor, e.label⟩] } false
      [] [] s.scanner.cursor where
  skip := rfl
  suppressed := rfl
  quiet := rfl
  history := (List.append_nil _).symm
  walk := Walk.stay _
  leaf _ := rfl
  hit := nofun
  miss _ _ := rfl
  furthest := by simp [Context.notes, he]

variable (he : e.isLeaf = true) (hs : contextOf k.rules s = k)

include he hs

theorem literal_inside (text : String) :
    Leads (Engine.literal e text) s
      (fun r t => Inside k e s t r.isSome [] [] s.scanner.cursor) fault := by
  unfold Engine.literal
  simp only [leads_bind, leads_get, Scanner.scanLiteral?, skippedCursor_eq hs]
  cases Scanner.dropWord? text.toList (k.skipped s.scanner.cursor).after with
  | none =>
    simp only [Option.map_none, leads_bind, leads_noted]
    exact inside_noted he
  | some rest =>
    simp only [Option.map_some, leads_bind, leads_setScanner]
    exact inside_moved he _

theorem pattern_inside (regex : Regex) (capture : Capture) :
    Leads (Engine.pattern e regex capture) s
      (fun r t => Inside k e s t r.isSome [] [] s.scanner.cursor) fault := by
  unfold Engine.pattern
  simp only [leads_bind, leads_get, Scanner.scanRegex?, skippedCursor_eq hs]
  cases regex.matchFrom (k.skipped s.scanner.cursor) with
  | none =>
    simp only [Option.map_none, leads_bind, leads_noted]
    exact inside_noted he
  | some m =>
    simp only [Option.map_some, leads_bind, leads_setScanner]
    exact inside_moved he _

theorem endOfInput_inside :
    Leads (Engine.endOfInput e) s
      (fun r t => Inside k e s t r.isSome [] [] s.scanner.cursor) fault := by
  unfold Engine.endOfInput
  simp only [leads_bind, leads_get, Scanner.skipNow, skippedCursor_eq hs]
  split
  · simp only [leads_bind, leads_setScanner]
    exact inside_moved he _
  · simp only [leads_bind, leads_noted]
    exact inside_noted he

end Leaf

/-- A typed leaf hides the notes of what is in it, and goes back in silence. -/
theorem convert_inside {sub : Sub (List Event)} (hsub : Tours k sub) {e : Element}
    (he : e.isTyped = true) (hleaf : e.isLeaf = false) (hs : contextOf k.rules s = k)
    (child : Element) (f : String → Option Value) :
    Leads (Engine.convert sub e child f) s
      (fun r t => ∃ es ns l, Inside k e s t r.isSome es ns l) (Broken k s) := by
  unfold Engine.convert
  simp only [leads_bind, leads_cursor, leads_modify, leads_get]
  refine (hsub child { s with quiet := s.quiet + 1 } hs).imp ?_
  rintro r t ⟨-, es, ns, htrip⟩
  have hquiet : t.quiet - 1 = s.quiet := by rw [htrip.quiet, Nat.add_sub_cancel]
  have hfurthest : t.furthest = s.furthest := by
    have hnoted := htrip.furthest
    rwa [State.noted, if_neg (Nat.succ_ne_zero _)] at hnoted
  split
  · refine ⟨es, ns, t.scanner.cursor, htrip.skip, htrip.suppressed, hquiet, htrip.history,
      htrip.walk, ?_, fun _ _ => rfl, nofun, ?_⟩
    · simp [hleaf]
    · simp [Context.notes, he, State.noted_nil, hfurthest]
  · have hskipped := skippedCursor_reset hs htrip.skip htrip.suppressed
    simp only [leads_bind, leads_reset, leads_skippedCursor, leads_noted, hskipped]
    refine ⟨es, ns, t.scanner.cursor, htrip.skip, htrip.suppressed, hquiet, htrip.history,
      htrip.walk, ?_, nofun, ?_, ?_⟩
    · simp [hleaf]
    · simp [he]
    · simp [Context.notes, he, State.noted, hfurthest, hquiet]

/-- A composite element leaves the notes of its parts. -/
theorem Circled.inside {e : Element} (hleaf : e.isLeaf = false) (htyped : e.isTyped = false)
    {r : Option Contribution} (h : Circled k s r t) :
    ∃ es ns l, Inside k e s t r.isSome es ns l := by
  obtain ⟨⟨es, ns, htrip⟩, hback⟩ := h
  refine ⟨es, ns, t.scanner.cursor, htrip.skip, htrip.suppressed, htrip.quiet, htrip.history,
    htrip.walk, ?_, fun _ _ => rfl, ?_, ?_⟩
  · simp [hleaf]
  · intro hmissed _
    apply hback
    cases r with
    | none => rfl
    | some out => cases hmissed
  · simp [Context.notes, hleaf, htyped, htrip.furthest]

theorem Tours.circled {sub : Sub (List Event)} (hsub : Tours k sub)
    (hs : contextOf k.rules s = k) (e : Element) :
    Leads (sub e) s (Circled k s) (Broken k s) := by
  refine (hsub e s hs).imp ?_
  rintro r t ⟨hstops, hst⟩
  exact ⟨hst, hstops.back⟩

theorem backref_circled (en : Engine (List Event)) {sub : Sub (List Event)} (hsub : Tours k sub)
    (hs : contextOf k.rules s = k) (name : String) (target : Nat) :
    Leads (en.backref sub name target) s (Circled k s) (Broken k s) := by
  unfold Engine.backref
  split
  · exact hsub.circled hs _
  · exact ⟨rfl, [], (List.append_nil _).symm, Cut.here (Walk.stay _)⟩

theorem evalKind_inside (en : Engine (List Event)) (hen : en.tracer = .recorder)
    {sub : Sub (List Event)} (hsub : Tours k sub) (e : Element)
    (hs : contextOf k.rules s = k) :
    Leads (en.evalKind sub e) s
      (fun r t => ∃ es ns l, Inside k e s t r.isSome es ns l) (Broken k s) := by
  have hcomposite : ∀ {m : Eval (List Event) (Option Contribution)}, e.isLeaf = false →
      e.isTyped = false → Leads m s (Circled k s) (Broken k s) →
      Leads m s (fun r t => ∃ es ns l, Inside k e s t r.isSome es ns l) (Broken k s) := by
    intro m hleaf htyped h
    exact h.imp fun r t hcircled => hcircled.inside hleaf htyped
  unfold Engine.evalKind
  unfold Element.isLeaf Element.isTyped at hcomposite
  cases hkind : e.kind with
  | literal text =>
    refine (literal_inside ?_ hs text).imp fun r t h => ⟨_, _, _, h⟩
    simp [Element.isLeaf, hkind]
  | pattern regex capture =>
    refine (pattern_inside ?_ hs regex capture).imp fun r t h => ⟨_, _, _, h⟩
    simp [Element.isLeaf, hkind]
  | endOfInput =>
    refine (endOfInput_inside ?_ hs).imp fun r t h => ⟨_, _, _, h⟩
    simp [Element.isLeaf, hkind]
  | convert child name f =>
    apply convert_inside hsub
    · simp [Element.isTyped, hkind]
    · simp [Element.isLeaf, hkind]
    · exact hs
  | sequence children =>
    apply hcomposite (by simp [hkind]) (by simp [hkind])
    exact sequence_circled en hen hsub hs children
  | alternation children =>
    apply hcomposite (by simp [hkind]) (by simp [hkind])
    exact firstOf_circled hsub hs children s ⟨Toured.refl s, fun _ => rfl⟩
  | repetition child min most =>
    apply hcomposite (by simp [hkind]) (by simp [hkind])
    exact repetition_circled en hen hsub hs child min most
  | separated item separator min most =>
    apply hcomposite (by simp [hkind]) (by simp [hkind])
    exact separated_circled en hen hsub hs item separator min most
  | rule key name body =>
    apply hcomposite (by simp [hkind]) (by simp [hkind])
    exact hsub.circled hs body
  | backref name target =>
    apply hcomposite (by simp [hkind]) (by simp [hkind])
    exact backref_circled en hsub hs name target

section Closing

variable {e : Element} {es : List Event} {ns : List Note} {l : Cursor}

theorem history_opened_recorder (s : State (List Event)) (e : Element) :
    (s.opened .recorder e).history = s.history ++ [.enter e s.scanner.position] :=
  List.reverse_cons

theorem Inside.closed_miss (hin : Inside k e (s.opened .recorder e) t false es ns l)
    (hback : t.scanner.cursor = s.scanner.cursor) :
    Toured k s { t with
      depth := t.depth - 1, trace := .failure e t.scanner.position :: t.trace } := by
  have hposition : t.scanner.cursor.offset = s.scanner.cursor.offset :=
    congrArg Cursor.offset hback
  have hwalk : Walk k s.scanner.cursor t.scanner.cursor
      (.enter e s.scanner.cursor.offset :: (es ++ [.failure e s.scanner.cursor.offset]))
      (k.notes e s.scanner.cursor false ns) := by
    rw [hback]
    exact hin.walk.of_miss hin.leaf (hin.miss rfl)
  refine ⟨_, _, hin.skip, hin.suppressed, hin.quiet, ?_, hwalk, hin.furthest⟩
  have hhistory := hin.history
  rw [history_opened_recorder] at hhistory
  unfold State.history at hhistory ⊢
  simp [hhistory, hposition, Scanner.position]

theorem Inside.closed_hit (hin : Inside k e (s.opened .recorder e) t true es ns l)
    (hadvances : Advances k s.scanner.cursor t.scanner.cursor) :
    Toured k s { t with
      depth := t.depth - 1
      trace := .success e (k.tokenStart s.scanner.cursor t.scanner.cursor) t.scanner.position ::
        t.trace } := by
  have hwalk : Walk k s.scanner.cursor t.scanner.cursor
      (.enter e s.scanner.cursor.offset :: (es ++ [.success e
        (k.tokenStart s.scanner.cursor t.scanner.cursor) t.scanner.cursor.offset]))
      (k.notes e s.scanner.cursor true ns) :=
    hin.walk.of_hit hin.leaf (hin.hit rfl) hadvances
  refine ⟨_, _, hin.skip, hin.suppressed, hin.quiet, ?_, hwalk, hin.furthest⟩
  have hhistory := hin.history
  rw [history_opened_recorder] at hhistory
  unfold State.history at hhistory ⊢
  simp [hhistory, Scanner.position]

end Closing

/-- Every evaluation is a walk, in which it is opened, looked into and closed. -/
theorem eval_tours (en : Engine (List Event)) (hen : en.tracer = .recorder)
    (hk : en.rules = k.rules) (room : Nat) : Tours k (en.eval room) := by
  induction room with
  | zero =>
    intro e s _
    by_cases hfuel : s.fuel = 0
    · refine leads_error (eval_of_empty en e 0 hfuel) ?_
      exact ⟨rfl, [], (List.append_nil _).symm, Cut.here (Walk.stay _)⟩
    · refine leads_error (eval_of_full en e hfuel) ?_
      exact ⟨rfl, [], (List.append_nil _).symm, Cut.here (Walk.stay _)⟩
  | succ room ih =>
    intro e s hs
    by_cases hfuel : s.fuel = 0
    · refine leads_error (eval_of_empty en e _ hfuel) ?_
      exact ⟨rfl, [], (List.append_nil _).symm, Cut.here (Walk.stay _)⟩
    unfold Leads
    rw [eval_of_fuel en e room hfuel]
    change Leads (en.evalKind (en.eval room) e >>= en.close e s.scanner.cursor)
      (s.opened en.tracer e) _ _
    rw [leads_bind, hen]
    have hopen : contextOf k.rules (s.opened .recorder e) = k := hs
    have hinside := evalKind_inside en hen ih e hopen
    have hfollows := evalKind_follows en hk (eval_follows en hk room) e _ hopen
    refine (hfollows.and hinside).mono ?_ ?_
    · rintro r t ⟨⟨hback, n, h, hkept, -, hkind⟩, es, ns, l, hin⟩
      have hyields := Yields.node hkind
      have hmarks : t.scanner.marks = s.scanner.marks := hkept.marks
      cases r with
      | none =>
        have hcursor : t.scanner.cursor = s.scanner.cursor := hback rfl
        rw [Engine.close, leads_bind, fail, leads_modify, leads_pure, hen]
        refine ⟨⟨hmarks, ?_, fun _ => hcursor⟩, hin.closed_miss hcursor⟩
        exact hcursor ▸ Cursor.Ahead.refl _
      | some out =>
        have hadvances : Advances k s.scanner.cursor t.scanner.cursor := hyields.advances
        have hskipped := skippedCursor_reset hs hkept.skip hkept.suppressed
        rw [Engine.close, leads_bind, succeed, leads_modify, leads_pure, hen]
        dsimp only [Scanner.skippedPosition]
        rw [hskipped]
        exact ⟨⟨hmarks, hadvances.ahead, nofun⟩, hin.closed_hit hadvances⟩
    · rintro fault t ⟨-, hfatal, es, hhistory, hcut⟩
      refine ⟨hfatal, .enter e s.scanner.position :: es, ?_, Cut.inside (Walk.stay _) hcut⟩
      rw [hhistory, history_opened_recorder, List.append_assoc]
      rfl

end BigStep

end Peg
