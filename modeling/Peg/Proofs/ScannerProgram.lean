import Peg.Proofs.Passage
import Peg.Scanner.Program

/-!
What no program of scanner operations can break.

Whatever a program does, the cursor and all marks stay boundaries of the one
text, every text that is read is cut out of it between two boundaries, and an
operation that fails has done nothing. A stretch without skipping gives skipping
back as it found it.
-/
namespace Peg

/-- The text holds `word` between the offsets `start` and `stop`. -/
def Slice (text : List Char) (start stop : Nat) (word : List Char) : Prop :=
  ∃ before after, text = before ++ word ++ after ∧
    start = byteLength before ∧ stop = byteLength (before ++ word)

theorem Cursor.Passes.slice {c d : Cursor} {word : List Char} (h : c.Passes d word) :
    Slice c.text c.offset d.offset word := by
  refine ⟨c.before.reverse, d.after, ?_, ?_, ?_⟩
  · rw [text, h.after_eq, List.append_assoc]
  · rw [c.offset_eq, byteLength_reverse]
  · rw [h.offset_eq, c.offset_eq, byteLength_append, byteLength_reverse]

/-- What is ahead of a cursor reaches to the end of the text. -/
theorem Cursor.slice_after (c : Cursor) : Slice c.text c.offset (byteLength c.text) c.after := by
  refine ⟨c.before.reverse, [], ?_, ?_, ?_⟩
  · rw [List.append_nil, text]
  · rw [c.offset_eq, byteLength_reverse]
  · rw [text]

/-- What lies between two cursors of a text in either order; there is nothing
if the second one is not beyond the first. -/
theorem Cursor.slice_upTo {a b : Cursor} (h : a.text = b.text) :
    Slice b.text (min a.offset b.offset) b.offset (a.upTo b) := by
  rcases Nat.le_total a.offset b.offset with hle | hle
  · obtain ⟨word, hword⟩ := (Ahead.mk h.symm hle).passes
    rw [Nat.min_eq_left hle, hword.upTo_eq, ← h]
    exact hword.slice
  · have hnothing : a.upTo b = [] := by
      rw [upTo, Nat.sub_eq_zero_of_le hle]
      exact takeBytes_append [] a.after
    rw [Nat.min_eq_right hle, hnothing]
    exact (Passes.refl b).slice

namespace Scanner

theorem ahead_skippedCursor (s : Scanner) : s.cursor.Ahead s.skippedCursor := by
  unfold skippedCursor
  split
  · split
    · exact (s.cursor.passes_skipWhile _).ahead
    · exact Cursor.Ahead.refl _
  · exact Cursor.Ahead.refl _

section Scan

variable {s t : Scanner}

theorem scanLiteral?_passes {literal : String} (h : s.scanLiteral? literal = some t) :
    ∃ d, t = s.reset d ∧ s.skippedCursor.Passes d literal.toList := by
  obtain ⟨rest, hrest, rfl⟩ := Option.map_eq_some_iff.mp h
  exact ⟨_, rfl, Cursor.passes_past (dropWord?_eq_some_iff.mp hrest)⟩

theorem scanSet?_passes {set : CharSet} {run : List Char} (h : s.scanSet? set = some (run, t)) :
    ∃ d, t = s.reset d ∧ s.cursor.Passes d run := by
  have hpasses := s.cursor.passes_skipWhile set.contains
  unfold scanSet? at h
  split at h
  · cases h
  · cases h
    exact ⟨_, rfl, hpasses⟩

theorem scanChar?_passes {set : CharSet} {x : Char} (h : s.scanChar? set = some (x, t)) :
    ∃ d, t = s.reset d ∧ s.cursor.Passes d [x] := by
  unfold scanChar? at h
  split at h
  · cases h
  · next x' rest hafter =>
    split at h
    · cases h
      exact ⟨_, rfl, rfl, hafter⟩
    · cases h

theorem scanRegex?_passes {regex : Regex} {m : Regex.Match}
    (h : s.scanRegex? regex = some (m, t)) :
    ∃ d, t = s.reset d ∧ s.skippedCursor.Passes d m.text.toList := by
  obtain ⟨found, hfound, heq⟩ := Option.map_eq_some_iff.mp h
  cases heq
  exact ⟨_, rfl, Regex.matchFrom_passes hfound⟩

end Scan

/-- Every text that the scanner reads is cut out of `text` between boundaries:
what is left, what lies behind a mark, what is skipped, and what a scan passes. -/
structure ReadsSlices (text : List Char) (s : Scanner) : Prop where
  remaining : Slice text s.position (byteLength text) s.remaining
  since (mark : Cursor) : mark.text = text →
    Slice text (min mark.offset s.position) s.position (s.since mark)
  skipNow : Slice text s.position s.skippedPosition (s.skipNow.since s.cursor)
  literal (word : String) (t : Scanner) : s.scanLiteral? word = some t →
    Slice text s.skippedPosition t.position word.toList
  set (set : CharSet) (run : List Char) (t : Scanner) : s.scanSet? set = some (run, t) →
    Slice text s.position t.position run
  char (set : CharSet) (x : Char) (t : Scanner) : s.scanChar? set = some (x, t) →
    Slice text s.position t.position [x]
  regex (regex : Regex) (m : Regex.Match) (t : Scanner) : s.scanRegex? regex = some (m, t) →
    Slice text s.skippedPosition t.position m.text.toList

theorem reads_slices (s : Scanner) : s.ReadsSlices s.source where
  remaining := s.cursor.slice_after
  since _ h := Cursor.slice_upTo h
  skipNow := by
    have hahead := s.ahead_skippedCursor
    have hslice := Cursor.slice_upTo hahead.text_eq.symm
    rw [Nat.min_eq_left hahead.offset_le, hahead.text_eq] at hslice
    exact hslice
  literal word t h := by
    obtain ⟨d, rfl, hpasses⟩ := scanLiteral?_passes h
    have htext : s.skippedCursor.text = s.source := s.ahead_skippedCursor.text_eq
    exact htext ▸ hpasses.slice
  set set run t h := by
    obtain ⟨d, rfl, hpasses⟩ := scanSet?_passes h
    exact hpasses.slice
  char set x t h := by
    obtain ⟨d, rfl, hpasses⟩ := scanChar?_passes h
    exact hpasses.slice
  regex regex m t h := by
    obtain ⟨d, rfl, hpasses⟩ := scanRegex?_passes h
    have htext : s.skippedCursor.text = s.source := s.ahead_skippedCursor.text_eq
    exact htext ▸ hpasses.slice

/-- Whether an operation reports that it found or could do nothing. -/
def Reply.isFailure : Reply → Bool
  | .flag holds => !holds
  | .text cs => cs.isNone
  | .found m => m.isNone
  | .returned r => !r.isOk
  | .done | .number _ | .place _ | .steps _ => false

namespace Session

/-- A scanner with a skip set at the start of a text, and no marks yet. -/
def start (text : List Char) (skip : Option CharSet) : Session :=
  ⟨.ofText text skip, []⟩

/-- The state in which a stretch without skipping starts. -/
def unskipping (s : Session) : Session :=
  s.goTo { s.scanner with suppressed := s.scanner.suppressed + 1 }

/-- The states between the operations of a program, those in its stretches
without skipping included. -/
inductive Visits : Session → List Step → Session → Prop
  | here (s : Session) (steps : List Step) : Visits s steps s
  | next {s u : Session} {step : Step} {steps : List Step}
      (later : Visits (s.perform step).2 steps u) : Visits s (step :: steps) u
  | inside {s u : Session} {body steps : List Step} (inner : Visits s.unskipping body u) :
      Visits s (.suppress body :: steps) u

/-- Everything in the session is a boundary of one text. -/
structure Sound (text : List Char) (s : Session) : Prop where
  cursor : s.scanner.cursor.text = text
  marks : ∀ mark ∈ s.scanner.marks, mark.text = text
  named : ∀ entry ∈ s.marks, entry.2.text = text

/-- From `s` to `t` the session stays sound, and skipping is as it was. -/
structure Keeps (text : List Char) (s t : Session) : Prop where
  sound : t.Sound text
  skip : t.scanner.skip = s.scanner.skip
  suppressed : t.scanner.suppressed = s.scanner.suppressed

variable {text : List Char} {s t u : Session}

theorem Sound.start (text : List Char) (skip : Option CharSet) :
    (Session.start text skip).Sound text :=
  ⟨rfl, by simp [Session.start, Scanner.ofText], by simp [Session.start]⟩

theorem Sound.unskipping (h : s.Sound text) : s.unskipping.Sound text :=
  ⟨h.cursor, h.marks, h.named⟩

theorem Keeps.refl (h : s.Sound text) : Keeps text s s :=
  ⟨h, rfl, rfl⟩

theorem Keeps.trans (hst : Keeps text s t) (htu : Keeps text t u) : Keeps text s u :=
  ⟨htu.sound, htu.skip.trans hst.skip, htu.suppressed.trans hst.suppressed⟩

/-- The cursor goes to another boundary of the text. -/
theorem Keeps.moved (h : s.Sound text) {d : Cursor} (hd : d.text = text) {scanner : Scanner}
    (hmoved : scanner = s.scanner.reset d) : Keeps text s (s.goTo scanner) := by
  subst hmoved
  exact ⟨⟨hd, h.marks, h.named⟩, rfl, rfl⟩

theorem Keeps.passed (h : s.Sound text) {c d : Cursor} {word : List Char} {scanner : Scanner}
    (hc : c.text = text) (hmoved : scanner = s.scanner.reset d) (hpasses : c.Passes d word) :
    Keeps text s (s.goTo scanner) :=
  Keeps.moved h (hpasses.text_eq.trans hc) hmoved

theorem Sound.skipped (h : s.Sound text) : s.scanner.skippedCursor.text = text :=
  s.scanner.ahead_skippedCursor.text_eq.trans h.cursor

/-- A mark that is found by its name is one of the marks. -/
theorem Sound.lookup (h : s.Sound text) {name : String} {mark : Cursor}
    (hmark : s.marks.lookup name = some mark) : mark.text = text := by
  obtain ⟨before, after, hmarks, -⟩ := List.lookup_eq_some_iff.mp hmark
  have hmem : (name, mark) ∈ s.marks := by simp [hmarks]
  exact h.named _ hmem

theorem popMark_keeps (h : s.Sound text) :
    Keeps text s (s.returnTo s.scanner.popMark).2 := by
  unfold Scanner.popMark
  split
  · exact Keeps.refl h
  · next mark marks hmarks =>
    have hrest : ∀ mark ∈ marks, mark.text = text := by
      intro m hm
      exact h.marks m (by simp [hmarks, hm])
    exact ⟨⟨h.cursor, hrest, h.named⟩, rfl, rfl⟩

theorem back_keeps (h : s.Sound text) : Keeps text s (s.returnTo s.scanner.back).2 := by
  unfold Scanner.back
  split
  · exact Keeps.refl h
  · next mark marks hmarks =>
    have hall : ∀ m ∈ mark :: marks, m.text = text := hmarks ▸ h.marks
    have hrest : ∀ m ∈ marks, m.text = text := fun m hm => hall m (List.mem_cons_of_mem _ hm)
    exact ⟨⟨hall mark List.mem_cons_self, hrest, h.named⟩, rfl, rfl⟩

/-- A stretch without skipping keeps what the operations in it keep, and skips
again as before when they are done. -/
theorem suppress_keeps {body : List Step}
    (h : Keeps text s.unskipping (s.unskipping.performAll body).2) :
    Keeps text s (s.perform (.suppress body)).2 := by
  -- The body has given back all that it took, so what is left to give back is its own level.
  have hsuppressed : (s.unskipping.performAll body).2.scanner.suppressed =
      s.scanner.suppressed + 1 := h.suppressed
  refine ⟨⟨h.sound.cursor, h.sound.marks, h.sound.named⟩, h.skip, ?_⟩
  change (s.unskipping.performAll body).2.scanner.suppressed - 1 = s.scanner.suppressed
  omega

-- By recursion on the program: a stretch without skipping has one of its own inside.
mutual

theorem perform_keeps {s : Session} (h : s.Sound text) :
    ∀ step, Keeps text s (s.perform step).2
  | .source | .atEnd | .remaining | .peek | .skipSet | .skippedPosition | .lineColumn _ =>
    Keeps.refl h
  | .mark name => by
    have hnamed : ∀ entry ∈ (name, s.scanner.cursor) :: s.marks, entry.2.text = text := by
      rintro entry (_ | ⟨_, hentry⟩)
      · exact h.cursor
      · exact h.named entry hentry
    exact ⟨⟨h.cursor, h.marks, hnamed⟩, rfl, rfl⟩
  | .reset name => by
    unfold perform
    split
    · next mark hmark => exact Keeps.moved h (h.lookup hmark) rfl
    · exact Keeps.refl h
  | .since name => by
    unfold perform
    split
    · exact Keeps.refl h
    · exact Keeps.refl h
  | .pushMark => by
    have hmarks : ∀ mark ∈ s.scanner.cursor :: s.scanner.marks, mark.text = text := by
      rintro mark (_ | ⟨_, hmark⟩)
      · exact h.cursor
      · exact h.marks mark hmark
    exact ⟨⟨h.cursor, hmarks, h.named⟩, rfl, rfl⟩
  | .popMark => popMark_keeps h
  | .back => back_keeps h
  | .suppress body => suppress_keeps (performAll_keeps h.unskipping body)
  | .skipNow => Keeps.moved h h.skipped rfl
  | .literal word => by
    unfold perform
    split
    · next scanner hscan =>
      obtain ⟨d, hmoved, hpasses⟩ := scanLiteral?_passes hscan
      exact Keeps.passed h h.skipped hmoved hpasses
    · exact Keeps.refl h
  | .set set => by
    unfold perform
    split
    · next run scanner hscan =>
      obtain ⟨d, hmoved, hpasses⟩ := scanSet?_passes hscan
      exact Keeps.passed h h.cursor hmoved hpasses
    · exact Keeps.refl h
  | .char set => by
    unfold perform
    split
    · next x scanner hscan =>
      obtain ⟨d, hmoved, hpasses⟩ := scanChar?_passes hscan
      exact Keeps.passed h h.cursor hmoved hpasses
    · exact Keeps.refl h
  | .regex regex => by
    unfold perform
    split
    · next m scanner hscan =>
      obtain ⟨d, hmoved, hpasses⟩ := scanRegex?_passes hscan
      exact Keeps.passed h h.skipped hmoved hpasses
    · exact Keeps.refl h

theorem performAll_keeps {s : Session} (h : s.Sound text) :
    ∀ steps, Keeps text s (s.performAll steps).2
  | [] => Keeps.refl h
  | step :: steps =>
    (perform_keeps h step).trans (performAll_keeps (perform_keeps h step).sound steps)

end

theorem Visits.sound {steps : List Step} (h : Visits s steps u) (hs : s.Sound text) :
    u.Sound text := by
  induction h with
  | here s steps => exact hs
  | next _ ih => exact ih (perform_keeps hs _).sound
  | inside _ ih => exact ih hs.unskipping

/-- The end of a program is one of the states it visits. -/
theorem visits_performAll (s : Session) (steps : List Step) :
    Visits s steps (s.performAll steps).2 := by
  induction steps generalizing s with
  | nil => exact Visits.here s []
  | cons step steps ih => exact Visits.next (ih _)

theorem returnTo_of_failure {r : Except ScanError Scanner}
    (h : (s.returnTo r).1.isFailure = true) : (s.returnTo r).2 = s := by
  cases r with
  | ok scanner => cases h
  | error e => rfl

/-- An operation that fails has done nothing. -/
theorem perform_of_failure (s : Session) (step : Step)
    (h : (s.perform step).1.isFailure = true) : (s.perform step).2 = s := by
  cases step with
  | source | atEnd | remaining | peek | skipSet | skippedPosition | lineColumn => rfl
  | popMark | back => exact returnTo_of_failure h
  | mark | pushMark | suppress | skipNow => cases h
  | reset name | since name | literal word | set set | char set | regex regex =>
    -- Each looks something up first, and touches the session only if it is found.
    unfold perform at h ⊢
    split at h
    · cases h
    · simp only [*]

end Session

end Scanner

/-- No program of scanner operations gets the scanner out of order. At every
step, also within stretches without skipping, the scanner is still on its text,
the cursor and all marks on the stack are boundaries between characters, and
the texts that can be read are cut out of the text between boundaries. A scan
that fails, and a return without a mark, leave everything as it was. A stretch
without skipping, whatever it did, skips again as before when it is done. -/
theorem scanner_programs_stay_in_order (text : List Char) (skip : Option CharSet)
    (steps : List Scanner.Step) (u : Scanner.Session)
    (h : Scanner.Session.Visits (.start text skip) steps u) :
    u.scanner.source = text ∧
      Boundary text u.scanner.position ∧
      (∀ mark ∈ u.scanner.marks, Boundary text mark.offset) ∧
      u.scanner.ReadsSlices text ∧
      (∀ step, (u.perform step).1.isFailure = true → (u.perform step).2 = u) ∧
      ∀ body, (u.perform (.suppress body)).2.scanner.suppressed = u.scanner.suppressed ∧
        (u.perform (.suppress body)).2.scanner.isSkipping = u.scanner.isSkipping := by
  have hsound : u.Sound text := h.sound (.start text skip)
  have hsource : u.scanner.source = text := hsound.cursor
  refine ⟨hsource, ?_, ?_, ?_, u.perform_of_failure, ?_⟩
  · rw [← hsource]
    exact u.scanner.cursor.boundary
  · intro mark hmark
    rw [← hsound.marks mark hmark]
    exact mark.boundary
  · rw [← hsource]
    exact u.scanner.reads_slices
  · intro body
    have hkeeps := Scanner.Session.perform_keeps hsound (.suppress body)
    refine ⟨hkeeps.suppressed, ?_⟩
    rw [Scanner.isSkipping, Scanner.isSkipping, hkeeps.skip, hkeeps.suppressed]

/-- Behind a letter of two bytes, a stretch without skipping passes a blank,
goes back to the only mark, and asks for another one in vain. -/
theorem vain_return_stays_in_order :
    let steps : List Scanner.Step :=
      [.literal "é", .pushMark, .suppress [.skipNow, .literal " x", .back, .back]]
    let u := ((Scanner.Session.start ['é', ' ', 'x'] (some CharSet.blanks)).performAll steps).2
    (u.scanner.position = 2 ∧ u.scanner.isSkipping = true) ∧
      Boundary ['é', ' ', 'x'] u.scanner.position ∧
      u.scanner.ReadsSlices ['é', ' ', 'x'] ∧
      (u.perform .back).2 = u := by
  intro steps u
  have horder := scanner_programs_stay_in_order ['é', ' ', 'x'] (some CharSet.blanks) steps u
    (Scanner.Session.visits_performAll _ steps)
  obtain ⟨-, hposition, -, hslices, hfailure, -⟩ := horder
  exact ⟨⟨by decide, by decide⟩, hposition, hslices, hfailure .back rfl⟩

end Peg
