import Peg.Proofs.Course
import Peg.Trace.Transcript

/-!
The events of a run are well nested.

Every evaluation that is opened is closed once, behind all that happens in it,
and the offsets that are told fit together. A run that is broken off tells the
beginning of such a history.
-/
namespace Peg

open BigStep

/-- The offsets of a match fit together: it was opened at `entry`, has skipped
characters up to `start` and goes from there to `stop`. -/
structure Span (skip : Option CharSet) (text : List Char) (entry start stop : Nat) : Prop where
  entry_le : entry ≤ start
  start_le : start ≤ stop
  stop_le : stop ≤ byteLength text
  entry_boundary : Boundary text entry
  start_boundary : Boundary text start
  stop_boundary : Boundary text stop
  gap : ∀ x ∈ textBetween text entry start, inSkip skip x = true
  /-- Only a match that does not move the cursor may start before them. -/
  token : entry < stop → start = skippedAt skip text entry

/-- A history in which every evaluation that is opened is closed. -/
inductive WellNested (skip : Option CharSet) (text : List Char) : List Event → Prop
  | nil : WellNested skip text []
  | backtrack {start stop : Nat} {es : List Event} (moves : stop < start)
      (start_boundary : Boundary text start) (stop_boundary : Boundary text stop)
      (rest : WellNested skip text es) : WellNested skip text (.backtrack start stop :: es)
  | failure {e : Element} {entry : Nat} {inner es : List Event}
      (inside : WellNested skip text inner) (rest : WellNested skip text es) :
      WellNested skip text (.enter e entry :: (inner ++ .failure e entry :: es))
  | success {e : Element} {entry start stop : Nat} {inner es : List Event}
      (inside : WellNested skip text inner) (span : Span skip text entry start stop)
      (rest : WellNested skip text es) :
      WellNested skip text (.enter e entry :: (inner ++ .success e start stop :: es))

theorem WellNested.append {skip : Option CharSet} {text : List Char} {es es' : List Event}
    (h : WellNested skip text es) (h' : WellNested skip text es') :
    WellNested skip text (es ++ es') := by
  induction h with
  | nil => exact h'
  | backtrack moves hstart hstop _ ih => exact backtrack moves hstart hstop ih
  | failure inside _ _ ih =>
    simp only [List.cons_append, List.append_assoc]
    exact failure inside ih
  | success inside span _ _ ih =>
    simp only [List.cons_append, List.append_assoc]
    exact success inside span ih

theorem textBetween_of_passes {c d : Cursor} {word : List Char} (h : c.Passes d word) :
    textBetween c.text c.offset d.offset = word := by
  have hstop : Cursor.ofOffset? c.text d.offset = some d := h.text_eq ▸ d.ofOffset?_offset
  unfold textBetween
  rw [c.ofOffset?_offset, hstop]
  exact h.upTo_eq

section Run

variable {g : Grammar} {settings : Settings} {c d : Cursor} {es : List Event} {ns : List Note}

theorem span_of_advances (h : Advances (g.context settings) c d) :
    Span settings.skip c.text c.offset ((g.context settings).tokenStart c d) d.offset := by
  have hahead := h.ahead
  have hstop_le : d.offset ≤ byteLength c.text := hahead.text_eq ▸ d.offset_le_byteLength
  have hstop : Boundary c.text d.offset := hahead.text_eq ▸ d.boundary
  unfold Context.tokenStart
  split
  · have hskipped := (g.context settings).ahead_skipped c
    obtain ⟨gap, hpasses, hgap⟩ := (g.context settings).passes_skipped c
    exact {
      entry_le := hskipped.offset_le
      start_le := ‹_›
      stop_le := hstop_le
      entry_boundary := c.boundary
      start_boundary := hskipped.text_eq ▸ Cursor.boundary _
      stop_boundary := hstop
      gap := (textBetween_of_passes hpasses).symm ▸ hgap
      token := fun _ => (g.skippedAt_offset settings c).symm }
  · -- The match ends before the skipped characters, so it stands still.
    obtain rfl : d = c := by
      rcases h.clear with hsame | hclear
      · exact hsame
      · contradiction
    have hgap := textBetween_of_passes (Cursor.Passes.refl d)
    exact {
      entry_le := Nat.le_refl _
      start_le := Nat.le_refl _
      stop_le := hstop_le
      entry_boundary := hstop
      start_boundary := hstop
      stop_boundary := hstop
      gap := by simp [hgap]
      token := fun hless => absurd hless (Nat.lt_irrefl _) }

theorem BigStep.Walk.wellNested (h : Walk (g.context settings) c d es ns) :
    WellNested settings.skip c.text es := by
  induction h with
  | stay c => exact .nil
  | @back b c d es ns ahead moves _ ih =>
    rw [ahead.text_eq]
    exact .backtrack moves (ahead.text_eq ▸ c.boundary) b.boundary ih
  | hit _ _ _ advances _ inside ih =>
    rw [advances.ahead.text_eq] at ih
    exact .success inside (span_of_advances advances) ih
  | miss _ _ _ _ inside ih => exact .failure inside ih

/-- What is still open can be closed by failures. -/
theorem BigStep.Cut.wellNested (h : Cut (g.context settings) c es) :
    ∃ rest, WellNested settings.skip c.text (es ++ rest) := by
  induction h with
  | here walk => exact ⟨[], (List.append_nil _).symm ▸ walk.wellNested⟩
  | @inside e c d es inner ns walk _ ih =>
    obtain ⟨rest, hrest⟩ := ih
    rw [walk.text_eq] at hrest
    refine ⟨rest ++ [.failure e d.offset], ?_⟩
    have hclosed : WellNested settings.skip c.text
        (.enter e d.offset :: (inner ++ rest ++ [.failure e d.offset])) :=
      .failure hrest .nil
    have hwhole := walk.wellNested.append hclosed
    simpa using hwhole

end Run

/-- The events of a run are well nested, and those of a run that ends in a fatal
error are the beginning of such events. -/
theorem events_well_nested (g : Grammar) (settings : Settings) (text : List Char) :
    ((∀ e, g.evaluatePrefix settings text = .error e → e.isNoMatch = true) →
        WellNested settings.skip text (g.events settings text)) ∧
      ((∃ e, g.evaluatePrefix settings text = .error e ∧ e.isNoMatch = false) →
        ∃ rest, WellNested settings.skip text (g.events settings text ++ rest)) := by
  have hstart : (Cursor.start text).text = text := rfl
  rcases g.course settings text with ⟨e, herror, hfatal, hcut⟩ | ⟨d, ns, hwalk, -⟩
  · have hrest := hcut.wellNested
    rw [hstart] at hrest
    refine ⟨?_, fun _ => hrest⟩
    intro hcomes
    have hno := hcomes e herror
    rw [hfatal] at hno
    cases hno
  · have hnested := hwalk.wellNested
    rw [hstart] at hnested
    refine ⟨fun _ => hnested, fun _ => ⟨[], ?_⟩⟩
    rwa [List.append_nil]

/-- The first alternative is given up behind its first letter. With fuel for
three evaluations the run ends there, with the choice and the sequence open. -/
theorem given_up_well_nested :
    let g : Grammar :=
      ⟨.alternation [.sequence [.literal "a", .literal "b"], .literal "a"], []⟩
    let text := [' ', 'a', 'c']
    (WellNested (some CharSet.blanks) text (g.events {} text) ∧
        (g.events {} text).length = 11) ∧
      ∃ rest, WellNested (some CharSet.blanks) text
        (g.events { limits := ⟨3, 256⟩ } text ++ rest) := by
  intro g text
  refine ⟨⟨?_, by decide +kernel⟩, ?_⟩
  · apply (events_well_nested g {} text).1
    have hok : (g.evaluatePrefix {} text).isOk = true := by decide +kernel
    intro e he
    rw [he] at hok
    cases hok
  · apply (events_well_nested g { limits := ⟨3, 256⟩ } text).2
    have hfuel : g.evaluatePrefix { limits := ⟨3, 256⟩ } text = .error (.fuelExhausted 3) := by
      rfl
    exact ⟨_, hfuel, rfl⟩

end Peg
