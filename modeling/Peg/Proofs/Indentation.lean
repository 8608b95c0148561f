import Peg.Proofs.Nesting
import Peg.Proofs.Observer

/-!
What a log shows of the evaluations.

The depth of a log is the number of evaluations that are open. So it is never taken below
zero, and the end of an evaluation is written as far in as its entry. A brief log is a
verbose one without what only the latter tells.
-/
namespace Peg

namespace Event

/-- The element whose evaluation is closed. -/
def closed? : Event → Option Element
  | success e _ _ | failure e _ => some e
  | enter _ _ | backtrack _ _ => none

/-- The number of evaluations that a history closes. -/
def closings (es : List Event) : Nat :=
  es.countP fun ev => ev.closed?.isSome

/-- Whether a log has a line for the event. -/
def isShown (v : Verbosity) (ev : Event) : Bool :=
  v = .verbose || ev.closed?.isSome

theorem isShown_verbose : isShown .verbose = fun _ => true := rfl

theorem level_of_closed {ev : Event} {e : Element} (h : ev.closed? = some e) (n : Nat) :
    ev.level n = n - 1 := by
  cases ev with
  | enter _ _ | backtrack _ _ => cases h
  | success _ _ _ | failure _ _ => rfl

theorem enters_append (es es' : List Event) : enters (es ++ es') = enters es + enters es' :=
  List.countP_append

theorem closings_append (es es' : List Event) :
    closings (es ++ es') = closings es + closings es' :=
  List.countP_append

/-- As long as something is open, no closing event is lost. -/
theorem enters_concat_eq {es : List Event} {ev : Event}
    (h : enters es = closings es + openAfter es)
    (hopen : ev.closed?.isSome = true → 0 < openAfter es) :
    enters (es ++ [ev]) = closings (es ++ [ev]) + openAfter (es ++ [ev]) := by
  rw [enters_append, closings_append, openAfter_concat, h]
  cases ev with
  | enter e position =>
    change _ + 1 = _ + 0 + (openAfter es + 1)
    omega
  | backtrack start stop => rfl
  | success e start stop | failure e position =>
    change _ + 0 = _ + 1 + (openAfter es - 1)
    have hpos := hopen rfl
    omega

end Event

open Event

/-- A history that ends within an evaluation of `e`: whatever was entered since is closed. -/
def EndsWithin (skip : Option CharSet) (text : List Char) (e : Element) (es : List Event) : Prop :=
  ∃ before position inner, es = before ++ .enter e position :: inner ∧ WellNested skip text inner

section Nested

variable {skip : Option CharSet} {text : List Char} {es : List Event} {e : Element}

theorem WellNested.enters_eq_closings (h : WellNested skip text es) :
    enters es = closings es := by
  induction h with
  | nil => rfl
  | backtrack _ _ _ _ ih => simpa [enters, closings, isEnter, closed?] using ih
  | failure _ _ ihinner ih | success _ _ _ ihinner ih =>
    simp only [enters, closings, List.countP_cons, List.countP_append, isEnter,
      closed?] at ihinner ih ⊢
    simp [ihinner, ih]
    omega

theorem EndsWithin.append_left (h : EndsWithin skip text e es) (front : List Event) :
    EndsWithin skip text e (front ++ es) := by
  obtain ⟨before, position, inner, rfl, hinner⟩ := h
  exact ⟨front ++ before, position, inner, (List.append_assoc _ _ _).symm, hinner⟩

/-- An event is in front of another one, or is this one, or comes behind it. -/
theorem append_cons_cases {inner es pre post : List Event} {close ev : Event}
    (h : inner ++ close :: es = pre ++ ev :: post) :
    (∃ rest, inner = pre ++ ev :: rest) ∨ (inner = pre ∧ close = ev) ∨
      ∃ mid, pre = inner ++ close :: mid ∧ es = mid ++ ev :: post := by
  rcases List.append_eq_append_iff.mp h with ⟨mid, rfl, hmid⟩ | ⟨rest, rfl, hrest⟩
  · cases mid with
    | nil => exact .inr (.inl ⟨(List.append_nil _).symm, (List.cons.inj hmid).1⟩)
    | cons x mid =>
      obtain ⟨rfl, hes⟩ := List.cons.inj hmid
      exact .inr (.inr ⟨mid, rfl, hes⟩)
  · cases rest with
    | nil => exact .inr (.inl ⟨List.append_nil _, (List.cons.inj hrest).1.symm⟩)
    | cons x rest =>
      obtain ⟨rfl, -⟩ := List.cons.inj hrest
      exact .inl ⟨rest, rfl⟩

theorem endsWithin_of_around {d : Element} {entry : Nat} {close ev : Event}
    {inner pre post : List Event} (inside : WellNested skip text inner)
    (hclose : close.closed? = some d) (hev : ev.closed? = some e)
    (hsplit : .enter d entry :: (inner ++ close :: es) = pre ++ ev :: post)
    (hinner : ∀ p q, inner = p ++ ev :: q → EndsWithin skip text e p)
    (hrest : ∀ p q, es = p ++ ev :: q → EndsWithin skip text e p) : EndsWithin skip text e pre := by
  cases pre with
  | nil =>
    obtain ⟨rfl, -⟩ := List.cons.inj hsplit
    cases hev
  | cons x pre =>
    obtain ⟨rfl, htail⟩ := List.cons.inj hsplit
    rcases append_cons_cases htail with ⟨rest, hin⟩ | ⟨rfl, rfl⟩ | ⟨mid, rfl, hbehind⟩
    · exact (hinner _ _ hin).append_left [_]
    · -- The event is the end of the evaluation itself.
      obtain rfl : d = e := Option.some.inj (hclose.symm.trans hev)
      exact ⟨[], entry, inner, rfl, inside⟩
    · have hfront := (hrest _ _ hbehind).append_left (.enter d entry :: (inner ++ [close]))
      simpa using hfront

/-- Whatever is closed has been entered, and all that was entered since is closed. -/
theorem WellNested.endsWithin (h : WellNested skip text es) {pre post : List Event} {ev : Event}
    (hsplit : es = pre ++ ev :: post) (hev : ev.closed? = some e) :
    EndsWithin skip text e pre := by
  induction h generalizing pre post with
  | nil => cases pre <;> cases hsplit
  | backtrack _ _ _ _ ih =>
    cases pre with
    | nil =>
      obtain ⟨rfl, -⟩ := List.cons.inj hsplit
      cases hev
    | cons x pre =>
      obtain ⟨rfl, hrest⟩ := List.cons.inj hsplit
      exact (ih hrest).append_left [_]
  | failure inside _ ihinner ih =>
    exact endsWithin_of_around inside rfl hev hsplit (fun _ _ => ihinner) fun _ _ => ih
  | success inside _ _ ihinner ih =>
    exact endsWithin_of_around inside rfl hev hsplit (fun _ _ => ihinner) fun _ _ => ih

/-- Within an evaluation one more is open than in front of it. -/
theorem WellNested.enters_within {inner : List Event} (h : WellNested skip text inner)
    (before : List Event) (e : Element) (position : Nat) :
    let within := before ++ .enter e position :: inner
    enters within + closings before = closings within + enters before + 1 := by
  intro within
  have hinner := h.enters_eq_closings
  have henters : enters within = enters before + (enters inner + 1) :=
    (enters_append _ _).trans (congrArg _ (List.countP_cons_of_pos rfl))
  have hclosings : closings within = closings before + closings inner :=
    (closings_append _ _).trans (congrArg _ (List.countP_cons_of_neg nofun))
  omega

/-- Of the evaluations that were entered those that are not closed are open. -/
theorem WellNested.enters_eq (h : WellNested skip text es) {p : List Event} (hp : p <+: es) :
    enters p = closings p + openAfter p := by
  -- What is in front of an entry is shorter by more than the event that closes it, so the
  -- induction is on the length.
  induction hlength : p.length using Nat.strong_induction_on generalizing p with
  | _ n ih =>
    rcases p.eq_nil_or_concat with rfl | ⟨pre, ev, hconcat⟩
    · rfl
    obtain rfl : p = pre ++ [ev] := by rw [hconcat, List.concat_eq_append]
    have hcount (q : List Event) (hq : q <+: pre) : enters q = closings q + openAfter q := by
      have hle := hq.length_le
      rw [List.length_append, List.length_singleton] at hlength
      exact ih q.length (by omega) (hq.trans ((List.prefix_append pre [ev]).trans hp)) rfl
    have hpre := hcount pre List.prefix_rfl
    refine enters_concat_eq hpre fun hsome => ?_
    -- What is closed was entered, and before that no more was closed than entered.
    obtain ⟨e, hev⟩ := Option.isSome_iff_exists.mp hsome
    obtain ⟨post, hpost⟩ := hp
    have hsplit : es = pre ++ ev :: post := by simp [← hpost]
    obtain ⟨before, position, inner, rfl, hinner⟩ := h.endsWithin hsplit hev
    have hbefore := hcount before (List.prefix_append _ _)
    have hwithin := hinner.enters_within before e position
    dsimp only at hwithin
    omega

/-- The element itself is open as well until it is closed. -/
theorem WellNested.openAfter_within {before inner : List Event} {position : Nat}
    (h : WellNested skip text es) (hwithin : before ++ .enter e position :: inner <+: es)
    (hinner : WellNested skip text inner) :
    openAfter (before ++ .enter e position :: inner) = openAfter before + 1 := by
  have hbefore := h.enters_eq ((List.prefix_append before _).trans hwithin)
  have hall := h.enters_eq hwithin
  have hcounts := hinner.enters_within before e position
  dsimp only at hcounts
  omega

end Nested

section Log

variable {v : Verbosity} {t : Transcript} {es : List Event}

/-- The line of an event stands at the lower of the depths around it. -/
theorem Transcript.observe_eq (v : Verbosity) (t : Transcript) (ev : Event) :
    (tracer v).observe t ev =
      ⟨ev.level t.depth, (if ev.isShown v then [⟨min t.depth (ev.level t.depth), ev⟩] else []) ++
        t.lines⟩ := by
  cases ev <;> cases v <;> simp [tracer, Tracer.observe, isShown, closed?, level, push]

theorem Transcript.replay_depth (v : Verbosity) (t : Transcript) (es : List Event) :
    ((tracer v).replay t es).depth = es.foldl level t.depth := by
  induction es generalizing t with
  | nil => rfl
  | cons ev es ih =>
    have hstep : ((tracer v).observe t ev).depth = ev.level t.depth := by rw [observe_eq]
    rw [List.foldl_cons, ← hstep]
    exact ih _

theorem Transcript.depth_eq_openAfter (v : Verbosity) (es : List Event) :
    ((tracer v).replay {} es).depth = openAfter es :=
  replay_depth v {} es

/-- Lines are only added, one for each event that is shown. -/
theorem Transcript.replay_lines (v : Verbosity) (t : Transcript) (es : List Event) :
    ∃ more, ((tracer v).replay t es).lines = more ++ t.lines ∧
      more.length = es.countP (isShown v) := by
  induction es generalizing t with
  | nil => exact ⟨[], rfl, rfl⟩
  | cons ev es ih =>
    obtain ⟨more, hlines, hlength⟩ := ih ((tracer v).observe t ev)
    have hstep : ((tracer v).observe t ev).lines =
        (if ev.isShown v then [⟨min t.depth (ev.level t.depth), ev⟩] else []) ++ t.lines := by
      rw [observe_eq]
    refine ⟨more ++ (if ev.isShown v then [⟨min t.depth (ev.level t.depth), ev⟩] else []), ?_, ?_⟩
    · rw [List.append_assoc, ← hstep]
      exact hlines
    · rw [List.length_append, hlength, List.countP_cons]
      split <;> rfl

/-- The line of an event stands behind those of the events before. -/
theorem Transcript.line_of_event {pre post : List Event} {ev : Event}
    (hsplit : es = pre ++ ev :: post) (hshown : ev.isShown v = true) :
    ((tracer v).replay {} es).lines.reverse[pre.countP (isShown v)]? =
      some ⟨min (openAfter pre) (ev.level (openAfter pre)), ev⟩ := by
  obtain ⟨first, hfirst, hlength⟩ := replay_lines v {} pre
  let before := (tracer v).replay {} pre
  obtain ⟨more, hmore, -⟩ := replay_lines v ((tracer v).observe before ev) post
  have hwhole : (tracer v).replay {} es =
      (tracer v).replay ((tracer v).observe before ev) post := by
    rw [hsplit, Tracer.replay, List.foldl_append]
    rfl
  have hdepth : before.depth = openAfter pre := depth_eq_openAfter v pre
  have hindex : pre.countP (isShown v) = before.lines.reverse.length := by
    rw [List.length_reverse, hfirst, ← hlength, List.append_nil]
  rw [hwhole, hmore, observe_eq, if_pos hshown, hdepth, hindex]
  simp

/-- An evaluation is closed at the depth of what is around it. -/
theorem Transcript.line_of_closing {pre post : List Event} {ev : Event} {e : Element} {n : Nat}
    (hsplit : es = pre ++ ev :: post) (hev : ev.closed? = some e) (hopen : openAfter pre = n + 1) :
    ((tracer v).replay {} es).lines.reverse[pre.countP (isShown v)]? = some ⟨n, ev⟩ := by
  have hshown : ev.isShown v = true := by simp [isShown, hev]
  rw [line_of_event hsplit hshown, hopen, level_of_closed hev, Nat.add_sub_cancel,
    Nat.min_eq_right (Nat.le_succ n)]

/-- So is it entered, as the verbose log tells, which has a line for every event. -/
theorem Transcript.line_of_entry {before rest : List Event} {e : Element} {position : Nat}
    (hsplit : es = before ++ .enter e position :: rest) :
    ((tracer .verbose).replay {} es).lines.reverse[before.length]? =
      some ⟨openAfter before, .enter e position⟩ := by
  have hline := line_of_event (v := .verbose) hsplit rfl
  have hlower : min (openAfter before) ((Event.enter e position).level (openAfter before)) =
      openAfter before := Nat.min_eq_left (Nat.le_succ _)
  rwa [isShown_verbose, List.countP_true, hlower] at hline

/-- A log without the lines that only the verbose one has. -/
def Transcript.briefly (t : Transcript) : Transcript :=
  { t with lines := t.lines.filter fun l => l.event.closed?.isSome }

theorem Transcript.observe_briefly (t : Transcript) (ev : Event) :
    (tracer .brief).observe t.briefly ev = ((tracer .verbose).observe t ev).briefly := by
  cases ev <;> rfl

theorem Transcript.replay_briefly (t : Transcript) (es : List Event) :
    (tracer .brief).replay t.briefly es = ((tracer .verbose).replay t es).briefly := by
  induction es generalizing t with
  | nil => rfl
  | cons ev es ih =>
    have hrest := ih ((tracer .verbose).observe t ev)
    rwa [← observe_briefly] at hrest

/-- What the verbose line of a match has at its end: the text of the match, quoted. -/
def LogStyle.quotation (st : LogStyle) : Event → List Char
  | .success _ start stop =>
    ' ' :: st.palette.paint st.palette.green
      (Quoted.text (String.ofList (textBetween st.source start stop))).toList
  | .enter _ _ | .failure _ _ | .backtrack _ _ => []

theorem LogStyle.lineChars_verbose (text : List Char) (palette : Palette) (l : LogLine) :
    lineChars ⟨text, .verbose, palette⟩ l =
      lineChars ⟨text, .brief, palette⟩ l ++ quotation ⟨text, .verbose, palette⟩ l.event := by
  obtain ⟨depth, ev⟩ := l
  cases ev <;> simp [lineChars, eventChars, quotation, element, dim]

end Log

/-- The events of a run belong to evaluations that were all entered before they end, and
without a fatal error none of them is still open. -/
theorem Grammar.exists_wellNested (g : Grammar) (settings : Settings) (text : List Char) :
    ∃ rest, WellNested settings.skip text (g.events settings text ++ rest) ∧
      ((∀ error, g.evaluatePrefix settings text = .error error → error.isNoMatch = true) →
        rest = []) := by
  rcases g.course settings text with ⟨error, herror, hfatal, hcut⟩ | ⟨d, ns, hwalk, -⟩
  · obtain ⟨rest, hrest⟩ := hcut.wellNested
    refine ⟨rest, hrest, fun hcomes => ?_⟩
    have hno := hcomes error herror
    rw [hfatal] at hno
    cases hno
  · exact ⟨[], (List.append_nil _).symm ▸ hwalk.wellNested, fun _ => rfl⟩

/-- A log mirrors the evaluations of a run. At any time its depth is the number of evaluations
that were entered and are not closed, of which there are none at the end without a fatal
error. The end of an evaluation is told at a depth above zero, in a line that is two blanks
further in for each evaluation around it, as is the line of its entry in the verbose log. The
brief log has just the lines of these ends, without the quotation behind a match. -/
theorem log_mirrors_evaluations (g : Grammar) (settings : Settings) (text : List Char)
    (palette : Palette) :
    let es := g.events settings text
    let log (v : Verbosity) := (g.evaluateWith settings text (Transcript.tracer v) {}).2
    let style (v : Verbosity) : LogStyle := ⟨text, v, palette⟩
    let line (v : Verbosity) (n : Nat) (ev : Event) :=
      String.ofList (List.replicate (2 * n) ' ' ++ (style v).eventChars ev)
    (∀ v, log v = (Transcript.tracer v).replay {} es ∧
        (log v).lines.length = es.countP (isShown v) ∧
        (∀ p, p <+: es → enters p = closings p + ((Transcript.tracer v).replay {} p).depth) ∧
        ((∀ error, g.evaluatePrefix settings text = .error error → error.isNoMatch = true) →
          (log v).depth = 0)) ∧
      (∀ pre ev post e, es = pre ++ ev :: post → ev.closed? = some e →
        (∀ v, 0 < ((Transcript.tracer v).replay {} pre).depth) ∧
          ∃ before position inner n, pre = before ++ .enter e position :: inner ∧
            WellNested settings.skip text inner ∧ enters before = closings before + n ∧
            (∀ v, ((style v).lines (log v))[pre.countP (isShown v)]? = some (line v n ev)) ∧
            ((style .verbose).lines (log .verbose))[before.length]? =
              some (line .verbose n (.enter e position))) ∧
      log .brief = (log .verbose).briefly ∧
      ∀ l, (style .verbose).lineChars l =
        (style .brief).lineChars l ++ (style .verbose).quotation l.event := by
  intro es log style line
  obtain ⟨rest, hnested, hclosed⟩ := g.exists_wellNested settings text
  have hlog (v : Verbosity) : log v = (Transcript.tracer v).replay {} es :=
    g.evaluateWith_eq_replay settings text (Transcript.tracer v) {}
  have hcount (p : List Event) (hp : p <+: es) : enters p = closings p + openAfter p :=
    hnested.enters_eq (hp.trans (List.prefix_append es rest))
  refine ⟨?_, ?_, ?_, LogStyle.lineChars_verbose text palette⟩
  · intro v
    refine ⟨hlog v, ?_, ?_, ?_⟩
    · obtain ⟨lines, hlines, hlength⟩ := Transcript.replay_lines v {} es
      rw [hlog, hlines, List.append_nil, hlength]
    · intro p hp
      rw [Transcript.depth_eq_openAfter]
      exact hcount p hp
    · intro hcomes
      have hwhole : WellNested settings.skip text es := by
        rwa [hclosed hcomes, List.append_nil] at hnested
      have hequal := hwhole.enters_eq_closings
      have hopen := hcount es List.prefix_rfl
      rw [hlog, Transcript.depth_eq_openAfter]
      omega
  · intro pre ev post e hsplit hev
    -- The run may be broken off, and the evaluations are closed only behind its events.
    have hlonger : es ++ rest = pre ++ ev :: (post ++ rest) := by rw [hsplit]; simp
    obtain ⟨before, position, inner, rfl, hinner⟩ := hnested.endsWithin hlonger hev
    have hentry : es = before ++ .enter e position :: (inner ++ ev :: post) := by
      rw [hsplit]; simp
    have hopen := hnested.openAfter_within ⟨_, hlonger.symm⟩ hinner
    have hwritten (v : Verbosity) (i n : Nat) (shown : Event)
        (hline : ((Transcript.tracer v).replay {} es).lines.reverse[i]? = some ⟨n, shown⟩) :
        ((style v).lines (log v))[i]? = some (line v n shown) := by
      rw [hlog, LogStyle.lines, List.getElem?_map, hline]
      rfl
    refine ⟨fun v => ?_, before, position, inner, openAfter before, rfl, hinner,
      hcount before ⟨_, hentry.symm⟩, fun v => ?_, ?_⟩
    · rw [Transcript.depth_eq_openAfter, hopen]
      exact Nat.succ_pos _
    · exact hwritten v _ _ _ (Transcript.line_of_closing hsplit hev hopen)
    · exact hwritten .verbose _ _ _ (Transcript.line_of_entry hentry)
  · rw [hlog, hlog]
    exact Transcript.replay_briefly {} es

/-- The second letter fails within the sequence, one level in, and so was it entered. -/
theorem missing_letter_is_indented :
    let b : Element := .literal "b"
    let g : Grammar := ⟨.sequence [.literal "a", b], []⟩
    let settings : Settings := { skip := none, limits := ⟨4, 4⟩ }
    let log (v : Verbosity) := (g.evaluateWith settings ['a'] (Transcript.tracer v) {}).2
    let style (v : Verbosity) : LogStyle := ⟨['a'], v, .plain⟩
    let line (v : Verbosity) (n : Nat) (ev : Event) :=
      String.ofList (List.replicate (2 * n) ' ' ++ (style v).eventChars ev)
    (log .brief).depth = 0 ∧ ∃ n i position : Nat,
      ((style .brief).lines (log .brief))[1]? = some (line .brief n (.failure b 1)) ∧
        ((style .verbose).lines (log .verbose))[4]? = some (line .verbose n (.failure b 1)) ∧
        ((style .verbose).lines (log .verbose))[i]? = some (line .verbose n (.enter b position)) := by
  intro b g settings log style line
  let a : Element := .literal "a"
  let before : List Event := [.enter g.root 0, .enter a 0, .success a 0 1, .enter b 1]
  have hevents : g.events settings ['a'] =
      before ++ .failure b 1 :: [.backtrack 1 0, .failure g.root 0] := by
    rfl
  obtain ⟨hdepth, hlines, -, -⟩ := log_mirrors_evaluations g settings ['a'] .plain
  obtain ⟨-, front, position, -, n, -, -, -, hend, hentry⟩ := hlines _ _ _ _ hevents rfl
  have hfails : ∀ error, g.evaluatePrefix settings ['a'] = .error error →
      error.isNoMatch = true := by
    have hresult : (match g.evaluatePrefix settings ['a'] with
      | .error error => error.isNoMatch
      | .ok _ => true) = true := by decide +kernel
    intro error herror
    rwa [herror] at hresult
  exact ⟨(hdepth .brief).2.2.2 hfails, n, front.length, position, hend .brief, hend .verbose,
    hentry⟩

example :
    let sequence : Element := .sequence [.literal "a", .literal "b"]
    let g : Grammar := ⟨.alternation [sequence, .literal "a"], []⟩
    let log := (g.evaluateWith {} ['a', 'c'] (Transcript.tracer .brief) {}).2
    LogStyle.lines ⟨['a', 'c'], .brief, .plain⟩ log = ["    \"a\" ✓ 0..1", "    \"b\" ✗ @1",
      "  (\"a\" + \"b\") ✗ @0", "  \"a\" ✓ 0..1", "[(\"a\" + \"b\") | \"a\"] ✓ 0..1"] := by
  decide +kernel

end Peg
