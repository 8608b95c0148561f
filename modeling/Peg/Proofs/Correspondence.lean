import Peg.Proofs.Effort
import Peg.Proofs.Tokens

/-!
Two runs of one grammar that correspond.

The runs may read different texts or skip different characters. A correspondence
says which cursors of the two runs belong together. If it is kept by all that a
run does to cursors, which is to skip, to find a token, to compare offsets and to
cut out the text of a typed leaf, then the runs do the same throughout. This module
treats the single steps of an evaluation.
-/
namespace Peg

open Eval

variable {σ : Type}

/-- Skipping, whether there is a skip set or not. -/
theorem Scanner.skippedCursor_eq {s : Scanner} (h : s.suppressed = 0) :
    s.skippedCursor = s.cursor.skipWhile (inSkip s.skip) := by
  let k : BigStep.Context := ⟨[], s.skip, s.suppressed⟩
  have hsame : k.isSkipped = inSkip s.skip := by
    funext x
    simp [BigStep.Context.isSkipped, k, h]
  rw [← hsame]
  exact k.skipped_eq s.cursor

/-- The text that a typed leaf cuts out, whether there is a skip set or not. -/
theorem Engine.matchedText_eq (s : Scanner) (mark : Cursor) :
    matchedText s mark =
      String.ofList ((mark.upTo s.cursor).dropWhile (inSkip s.skip)) := by
  unfold matchedText Scanner.since
  cases s.skip with
  | some set => rfl
  | none =>
    have hnone : ∀ text : List Char, text = text.dropWhile (inSkip none) := by
      intro text
      cases text with
      | nil => rfl
      | cons x rest => rfl
    exact congrArg String.ofList (hnone _)

/-- Where a match is said to start: behind the skipped characters, unless it ends
before them. -/
def tokenStart (gap : Char → Bool) (entry stop : Cursor) : Nat :=
  let token := (entry.skipWhile gap).offset
  if token ≤ stop.offset then token else entry.offset

/-- What belongs together in two runs. -/
structure Correspondence (σ : Type) where
  /-- The characters that the first run skips. -/
  gap : Char → Bool
  /-- The characters that the second run skips. -/
  gap' : Char → Bool
  /-- Where the scanners stand. -/
  place : Cursor → Cursor → Prop
  /-- Where tokens are looked for. -/
  spot : Cursor → Cursor → Prop
  notes : Furthest → Furthest → Prop
  /-- What the observers have seen. -/
  seen : σ → σ → Prop

namespace Correspondence

/-- A correspondence is kept by all that a run of the grammar does to cursors, notes
and observers. -/
structure Lawful (C : Correspondence σ) (g : Grammar) (tracer : Tracer σ) : Prop where
  skip {c c' : Cursor} (h : C.place c c') : C.spot (c.skipWhile C.gap) (c'.skipWhile C.gap')
  literal {e : Element} {text : String} (used : g.Uses e) (kind : e.kind = .literal text)
    {c c' : Cursor} (h : C.spot c c') :
    Option.Rel (fun rest rest' => C.place (c.past text.toList rest) (c'.past text.toList rest'))
      (Scanner.dropWord? text.toList c.after) (Scanner.dropWord? text.toList c'.after)
  pattern {e : Element} {regex : Regex} {capture : Capture} (used : g.Uses e)
    (kind : e.kind = .pattern regex capture) {c c' : Cursor} (h : C.spot c c') :
    Option.Rel (fun m m' => capture.value m = capture.value m' ∧ C.place m.stop m'.stop)
      (regex.matchFrom c) (regex.matchFrom c')
  endOfInput {e : Element} (used : g.Uses e) (kind : e.kind = .endOfInput) {c c' : Cursor}
    (h : C.spot c c') : C.place c c'
  atEnd {c c' : Cursor} (h : C.spot c c') : c.atEnd = c'.atEnd
  lt_iff {c c' d d' : Cursor} (hc : C.place c c') (hd : C.place d d') :
    c.offset < d.offset ↔ c'.offset < d'.offset
  text {c c' d d' : Cursor} (hc : C.place c c') (hd : C.place d d') :
    (c.upTo d).dropWhile C.gap = (c'.upTo d').dropWhile C.gap'
  record {f f' : Furthest} (hf : C.notes f f') {c c' : Cursor} (hc : C.spot c c')
    (label : Unit → String) : C.notes (f.record c label) (f'.record c' label)
  enter {c c' : Cursor} (hc : C.place c c') {x x' : σ} (hx : C.seen x x') (e : Element) :
    C.seen (tracer.enter e c.offset x) (tracer.enter e c'.offset x')
  success {c c' d d' : Cursor} (hc : C.place c c') (hd : C.place d d') {x x' : σ}
    (hx : C.seen x x') (e : Element) :
    C.seen (tracer.success e (tokenStart C.gap c d) d.offset x)
      (tracer.success e (tokenStart C.gap' c' d') d'.offset x')
  failure {c c' : Cursor} (hc : C.place c c') {x x' : σ} (hx : C.seen x x') (e : Element) :
    C.seen (tracer.failure e c.offset x) (tracer.failure e c'.offset x')
  backtrack {c c' d d' : Cursor} (hc : C.place c c') (hd : C.place d d') {x x' : σ}
    (hx : C.seen x x') :
    C.seen (tracer.backtrack c.offset d.offset x) (tracer.backtrack c'.offset d'.offset x')

variable (C : Correspondence σ)

/-- Two states that belong together. -/
structure Facing (s s' : State σ) : Prop where
  place : C.place s.scanner.cursor s'.scanner.cursor
  gap : inSkip s.scanner.skip = C.gap
  gap' : inSkip s'.scanner.skip = C.gap'
  active : s.scanner.suppressed = 0
  active' : s'.scanner.suppressed = 0
  fuel : s.fuel = s'.fuel
  quiet : s.quiet = s'.quiet
  notes : C.notes s.furthest s'.furthest
  seen : C.seen s.trace s'.trace

/-- The outcomes of a step in two runs: results that `Q` relates in states that
belong together, or the same fatal error. -/
inductive Paired {α β : Type} (Q : α → β → Prop) :
    EStateM.Result ParseError (State σ) α → EStateM.Result ParseError (State σ) β → Prop
  | ok {a : α} {b : β} {s s' : State σ} (related : Q a b) (facing : C.Facing s s') :
      Paired Q (.ok a s) (.ok b s')
  | error {e : ParseError} {s s' : State σ} (fatal : e.isNoMatch = false)
      (seen : C.seen s.trace s'.trace) : Paired Q (.error e s) (.error e s')

/-- The two steps keep runs together. -/
def Tandem {α β : Type} (Q : α → β → Prop) (m : Eval σ α) (m' : Eval σ β) : Prop :=
  ∀ s s', C.Facing s s' → C.Paired Q (m s) (m' s')

end Correspondence

namespace Correspondence.Facing

variable {C : Correspondence σ} {g : Grammar} {tracer : Tracer σ} {s s' : State σ}

/-- The places at which the next token is looked for. -/
theorem spot (hC : C.Lawful g tracer) (h : C.Facing s s') :
    C.spot s.scanner.skippedCursor s'.scanner.skippedCursor := by
  rw [Scanner.skippedCursor_eq h.active, Scanner.skippedCursor_eq h.active', h.gap, h.gap']
  exact hC.skip h.place

theorem moved (h : C.Facing s s') {c c' : Cursor} (hc : C.place c c') :
    C.Facing { s with scanner := { s.scanner with cursor := c } }
      { s' with scanner := { s'.scanner with cursor := c' } } :=
  { h with place := hc }

/-- The same is noted in both runs, or nothing inside a typed leaf. -/
theorem recorded (hC : C.Lawful g tracer) (h : C.Facing s s') {c c' : Cursor}
    (hc : C.spot c c') (label : Unit → String) :
    C.Facing (s.recorded c label) (s'.recorded c' label) := by
  unfold State.recorded
  rw [h.quiet]
  split
  · exact h
  · exact { h with quiet := rfl, notes := hC.record h.notes hc label }

/-- A typed leaf converts the same text in both runs. -/
theorem leafText_eq (hC : C.Lawful g tracer) (h : C.Facing s s') {mark mark' : Cursor}
    (hmark : C.place mark mark') (out : Contribution) :
    Engine.leafText s.scanner mark out = Engine.leafText s'.scanner mark' out := by
  have htext : Engine.matchedText s.scanner mark = Engine.matchedText s'.scanner mark' := by
    rw [Engine.matchedText_eq, Engine.matchedText_eq, h.gap, h.gap', hC.text hmark h.place]
  unfold Engine.leafText
  rw [htext]

end Correspondence.Facing

namespace Correspondence.Tandem

variable {C : Correspondence σ} {α β α' β' : Type}

theorem bind {Q : α → β → Prop} {R : α' → β' → Prop} {m : Eval σ α} {m' : Eval σ β}
    {k : α → Eval σ α'} {k' : β → Eval σ β'} (hm : C.Tandem Q m m')
    (hk : ∀ a b, Q a b → C.Tandem R (k a) (k' b)) : C.Tandem R (m >>= k) (m' >>= k') := by
  intro s s' hs
  have hfirst := hm s s' hs
  generalize hr : m s = r at hfirst
  generalize hr' : m' s' = r' at hfirst
  cases hfirst with
  | ok related facing =>
    rw [bind_of_ok hr, bind_of_ok hr']
    exact hk _ _ related _ _ facing
  | error fatal seen =>
    rw [bind_of_error hr, bind_of_error hr']
    exact .error fatal seen

theorem pure {Q : α → β → Prop} {a : α} {b : β} (h : Q a b) :
    C.Tandem Q (Pure.pure a) (Pure.pure b) :=
  fun _ _ hs => .ok h hs

theorem throw {Q : α → β → Prop} {e : ParseError} (h : e.isNoMatch = false) :
    C.Tandem Q (MonadExcept.throw e) (MonadExcept.throw e) :=
  fun _ _ hs => .error h hs.seen

/-- Steps that go on with what they see. -/
theorem look {Q : α → β → Prop} {k : State σ → Eval σ α} {k' : State σ → Eval σ β}
    (hk : ∀ s s', C.Facing s s' → C.Tandem Q (k s) (k' s')) :
    C.Tandem Q (get >>= k) (get >>= k') :=
  fun s s' hs => hk s s' hs s s' hs

theorem update {f f' : State σ → State σ} (h : ∀ s s', C.Facing s s' → C.Facing (f s) (f' s')) :
    C.Tandem Eq (modify f) (modify f') :=
  fun s s' hs => .ok rfl (h s s' hs)

/-- Steps that take the same branch. -/
theorem ite {Q : α → β → Prop} {p p' : Prop} [Decidable p] [Decidable p'] {m k : Eval σ α}
    {m' k' : Eval σ β} (h : p ↔ p') (hm : C.Tandem Q m m') (hk : C.Tandem Q k k') :
    C.Tandem Q (if p then m else k) (if p' then m' else k') := by
  by_cases hp : p
  · rw [if_pos hp, if_pos (h.mp hp)]
    exact hm
  · rw [if_neg hp, if_neg (mt h.mpr hp)]
    exact hk

/-- A scanner that was seen before is taken over, with the cursor elsewhere. -/
theorem goTo {s s' : State σ} (hs : C.Facing s s') {c c' : Cursor} (hc : C.place c c') :
    C.Tandem Eq (Eval.setScanner { s.scanner with cursor := c })
      (Eval.setScanner { s'.scanner with cursor := c' }) :=
  update fun _ _ hu => { hu with
    place := hc, gap := hs.gap, gap' := hs.gap', active := hs.active, active' := hs.active' }

theorem cursor : C.Tandem C.place Eval.cursor Eval.cursor :=
  fun _ _ hs => .ok hs.place hs

theorem reset {mark mark' : Cursor} (hmark : C.place mark mark') :
    C.Tandem Eq (Eval.reset mark) (Eval.reset mark') :=
  update fun _ _ hs => hs.moved hmark

theorem quieten (f : Nat → Nat) :
    C.Tandem Eq (modify fun s => { s with quiet := f s.quiet })
      (modify fun s => { s with quiet := f s.quiet }) :=
  update fun _ _ hs => { hs with quiet := congrArg f hs.quiet }

theorem spend (limits : Limits) : C.Tandem Eq (Eval.spend limits) (Eval.spend limits) := by
  apply look
  intro s s' hs
  rw [hs.fuel]
  split
  · exact throw rfl
  · intro u u' hu
    exact .ok rfl { hs with fuel := rfl }

section Lawful

variable {g : Grammar} {tracer : Tracer σ} (hC : C.Lawful g tracer)

include hC

theorem skippedCursor : C.Tandem C.spot Eval.skippedCursor Eval.skippedCursor :=
  fun _ _ hs => .ok (hs.spot hC) hs

theorem record {c c' : Cursor} (hc : C.spot c c') (label : Unit → String) :
    C.Tandem Eq (Eval.record c label) (Eval.record c' label) :=
  update fun _ _ hs => hs.recorded hC hc label

theorem backtracked {start start' : Cursor} (hstart : C.place start start') :
    C.Tandem Eq (Eval.backtracked tracer start) (Eval.backtracked tracer start') := by
  apply update
  intro s s' hs
  have hforward := hC.lt_iff hstart hs.place
  have hbackward := hC.lt_iff hs.place hstart
  -- The cursors have moved in both runs or in neither.
  have hmoved : start.offset = s.scanner.position ↔ start'.offset = s'.scanner.position := by
    unfold Scanner.position
    omega
  dsimp only
  by_cases hstill : start.offset = s.scanner.position
  · rw [if_pos hstill, if_pos (hmoved.mp hstill)]
    exact hs
  · rw [if_neg hstill, if_neg (mt hmoved.mpr hstill)]
    exact { hs with seen := hC.backtrack hstart hs.place hs.seen }

theorem rewind {mark mark' : Cursor} (hmark : C.place mark mark') :
    C.Tandem Eq (Eval.rewind tracer mark) (Eval.rewind tracer mark') := by
  apply cursor.bind
  intro start start' hstart
  apply (reset hmark).bind
  intro _ _ _
  exact backtracked hC hstart

theorem enter (e : Element) : C.Tandem Eq (Eval.enter tracer e) (Eval.enter tracer e) :=
  update fun _ _ hs => { hs with seen := hC.enter hs.place hs.seen e }

theorem fail (e : Element) : C.Tandem Eq (Eval.fail tracer e) (Eval.fail tracer e) :=
  update fun _ _ hs => { hs with seen := hC.failure hs.place hs.seen e }

theorem succeed (e : Element) {entry entry' : Cursor} (hentry : C.place entry entry') :
    C.Tandem Eq (Eval.succeed tracer e entry) (Eval.succeed tracer e entry') := by
  apply update
  intro s s' hs
  have htoken : ((s.scanner.reset entry).skippedPosition) = (entry.skipWhile C.gap).offset := by
    rw [← hs.gap]
    exact congrArg Cursor.offset (Scanner.skippedCursor_eq (s := s.scanner.reset entry) hs.active)
  have htoken' :
      ((s'.scanner.reset entry').skippedPosition) = (entry'.skipWhile C.gap').offset := by
    rw [← hs.gap']
    exact congrArg Cursor.offset
      (Scanner.skippedCursor_eq (s := s'.scanner.reset entry') hs.active')
  dsimp only
  rw [htoken, htoken']
  exact { hs with seen := hC.success hentry hs.place hs.seen e }

end Lawful

end Correspondence.Tandem

end Peg
