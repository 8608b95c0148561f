import Peg.Proofs.Captures
import Peg.Proofs.Registers
import Peg.Proofs.ScannerProgram

/-!
What a machine cuts out of its text.

Every piece lies between two boundaries: what is left, what is skipped, what a
mark, a pattern or a group delimits, and the line of the furthest failure. So no
scan, no note and no leaf panics.
-/
namespace Peg.Machine

open Act

variable {σ : Type} {mc : Machine σ} {d q : UInt32} {r : Registers σ} {s : State σ}

theorem Holds.skipped (h : mc.Holds d q r s) :
    mc.At s.scanner.skippedCursor.offset s.scanner.skippedCursor :=
  h.position.moved s.scanner.ahead_skippedCursor.text_eq

section Slices

theorem slice_between {a b : Cursor} (ha : a.text = mc.source) (h : a.Ahead b) :
    mc.slice a.offset b.offset r = .ok (a.upTo b) r := by
  have hstart := a.ofOffset?_offset
  have hstop := b.ofOffset?_offset
  rw [ha] at hstart
  rw [h.text_eq, ha] at hstop
  unfold slice
  rw [hstart, hstop]
  dsimp only
  rw [if_pos h.offset_le]
  rfl

/-- A machine can cut out every piece of its text. -/
theorem slice_of {start stop : Nat} {word : List Char} (h : Slice mc.source start stop word) :
    mc.slice start stop r = .ok word r := by
  obtain ⟨before, after, htext, rfl, rfl⟩ := h
  -- The piece is what lies between the cursor before it and the one behind it.
  let a : Cursor := ⟨before.reverse, word ++ after, byteLength before, by simp⟩
  have ha : a.text = mc.source := by simp [a, Cursor.text, htext]
  have hpasses : a.Passes (a.past word after) word := Cursor.passes_past rfl
  have hslice := slice_between (r := r) ha (Cursor.ahead_past rfl : a.Ahead (a.past word after))
  rw [hpasses.upTo_eq] at hslice
  rw [byteLength_append]
  exact hslice

/-- Half a character is no piece of a text. -/
example (r : Registers Unit) : (⟨['é'], [], none, 0, 0, .silent⟩ : Machine Unit).slice 0 1 r =
    .error (.panic .badSlice) r := by
  rfl

theorem slice_ahead {offset : Nat} {c : Cursor} (h : mc.At offset c) :
    mc.slice offset mc.size r = .ok c.after r := by
  have hslice := c.slice_after
  rw [h.text_eq, ← h.offset_eq] at hslice
  exact slice_of hslice

end Slices

section Scan

theorem runEnd_of_at {offset : Nat} {c : Cursor} (hc : mc.At offset c) (set : CharSet) :
    mc.runEnd offset set r = .ok (c.skipWhile set.contains).offset r := by
  have hpasses := c.passes_skipWhile set.contains
  unfold runEnd
  rw [Act.bind_of_ok (slice_ahead hc), hpasses.offset_eq, ← hc.offset_eq]
  rfl

theorem skippedPosition_of_holds (h : mc.Holds d q r s) :
    mc.skippedPosition r = .ok s.scanner.skippedCursor.offset r := by
  unfold skippedPosition Scanner.skippedCursor
  rw [Act.bind_get, h.skip]
  cases mc.skip with
  | none =>
    rw [← h.position.offset_eq]
    rfl
  | some set =>
    dsimp only
    rw [if_pos h.suppressed, if_pos h.skipping]
    exact runEnd_of_at h.position set

theorem moveTo_of_holds (h : mc.Holds d q r s) {offset : Nat} {c : Cursor}
    (hc : mc.At offset c) : mc.moveTo offset r = .ok () { r with position := offset } := by
  have hmoved := (h.moved hc).inBounds
  unfold moveTo update
  rw [if_pos hmoved]

theorem size_eq {offset : Nat} {c : Cursor} (hc : mc.At offset c) :
    mc.size = offset + byteLength c.after := by
  rw [size, ← hc.text_eq, Cursor.text, byteLength_append, byteLength_reverse, hc.offset_eq,
    c.offset_eq]

theorem atEnd_of_at {c : Cursor} (hc : mc.At r.position c) : mc.atEnd r = .ok c.atEnd r := by
  have hsize := size_eq hc
  have hend : (r.position == mc.size) = c.after.isEmpty := by
    cases hafter : c.after with
    | nil => simp [hsize, hafter]
    | cons x rest =>
      -- A character that is left takes a byte at least.
      have hx := x.utf8Size_pos
      rw [hafter, byteLength_cons] at hsize
      have hne : r.position ≠ mc.size := by omega
      simp [hne]
  change EStateM.Result.ok (r.position == mc.size) r = _
  rw [hend]
  rfl

theorem reset_mirrors (h : mc.Holds d q r s) {offset : Nat} {c : Cursor} (hc : mc.At offset c) :
    mc.Mirrors d q Eq (mc.reset offset r) (Eval.reset c s) := by
  unfold reset
  rw [if_pos hc.boundary, Nat.min_eq_left hc.le_size]
  exact Mirrors.update _ (h.moved hc)

theorem skipNow_of_holds (h : mc.Holds d q r s) :
    mc.skipNow r = .ok (s.scanner.cursor.upTo s.scanner.skippedCursor)
      { r with position := s.scanner.skippedCursor.offset } := by
  have hposition := h.position
  unfold skipNow
  rw [bind_position, Act.bind_of_ok (skippedPosition_of_holds h),
    Act.bind_of_ok (moveTo_of_holds h h.skipped), hposition.offset_eq]
  exact slice_between hposition.text_eq s.scanner.ahead_skippedCursor

theorem atEnd_of_skipped (h : mc.Holds d q r s) :
    mc.atEnd { r with position := s.scanner.skippedCursor.offset } =
      .ok s.scanner.skipNow.atEnd { r with position := s.scanner.skippedCursor.offset } :=
  atEnd_of_at (h.moved h.skipped).position

theorem scanLiteral_of_holds (h : mc.Holds d q r s) (literal : String) :
    mc.scanLiteral literal r = match s.scanner.scanLiteral? literal with
      | some t => .ok true { r with position := t.position }
      | none => .ok false r := by
  unfold scanLiteral Scanner.scanLiteral?
  rw [Act.bind_of_ok (skippedPosition_of_holds h), Act.bind_of_ok (slice_ahead h.skipped)]
  dsimp only
  cases hfound : Scanner.dropWord? literal.toList s.scanner.skippedCursor.after with
  | none =>
    rw [if_neg (Scanner.dropWord?_eq_none_iff.mp hfound)]
    rfl
  | some rest =>
    have hafter := Scanner.dropWord?_eq_some_iff.mp hfound
    have hat := h.skipped.moved (Cursor.ahead_past hafter).text_eq
    have hmove := moveTo_of_holds h hat
    rw [if_pos ⟨rest, hafter.symm⟩]
    exact Act.bind_of_ok hmove

theorem groupTexts_of_ahead (groups : List (Option (Cursor × Cursor)))
    (h : ∀ a b, some (a, b) ∈ groups → a.text = mc.source ∧ a.Ahead b) :
    ∃ texts, mc.groupTexts groups r = .ok texts r := by
  induction groups with
  | nil => exact ⟨_, rfl⟩
  | cons group groups ih =>
    obtain ⟨texts, htexts⟩ := ih fun a b hab => h a b (List.mem_cons_of_mem _ hab)
    cases group with
    | none =>
      refine ⟨none :: texts, ?_⟩
      unfold groupTexts
      rw [Act.bind_of_ok htexts]
      rfl
    | some group =>
      obtain ⟨a, b⟩ := group
      obtain ⟨ha, hab⟩ := h a b List.mem_cons_self
      refine ⟨some (a.upTo b) :: texts, ?_⟩
      unfold groupTexts
      rw [Act.bind_of_ok (slice_between ha hab), Act.bind_of_ok htexts]
      rfl

/-- A pattern is matched at a boundary, and all that is cut out of the text lies
in the match. -/
theorem matchAt_of_at {offset : Nat} {c : Cursor} (hc : mc.At offset c) (regex : Regex) :
    mc.matchAt regex offset r = .ok (regex.matchFrom c) r := by
  -- A pattern is not even tried at an offset beyond the text; a boundary is none.
  have hinside : ¬ byteLength mc.source + 1 < offset := by
    have hle := hc.le_size
    unfold size at hle
    omega
  have hfound : Cursor.ofOffset? mc.source offset = some c := by
    rw [hc.offset_eq, ← hc.text_eq]
    exact c.ofOffset?_offset
  unfold matchAt Regex.matchAt
  rw [if_pos hc.boundary, if_neg hinside, hfound]
  dsimp only [Option.bind_some]
  cases hmatch : regex.matchFrom c with
  | none => rfl
  | some m =>
    have hstop : c.Ahead m.stop := Regex.matchFrom_ahead hmatch
    have hgroups : ∀ a b, some (a, b) ∈ m.groups → a.text = mc.source ∧ a.Ahead b := by
      intro a b hab
      obtain ⟨ha, hb, -⟩ := Regex.matchFrom_groups hmatch hab
      exact ⟨ha.text_eq.trans hc.text_eq, hb⟩
    obtain ⟨texts, htexts⟩ := groupTexts_of_ahead (r := r) m.groups hgroups
    dsimp only
    rw [Regex.matchFrom_start hmatch, Act.bind_of_ok (slice_between hc.text_eq hstop),
      Act.bind_of_ok htexts]
    rfl

theorem scanRegex_of_holds (h : mc.Holds d q r s) (regex : Regex) :
    mc.scanRegex regex r = match s.scanner.scanRegex? regex with
      | some (m, t) => .ok (some m) { r with position := t.position }
      | none => .ok none r := by
  unfold scanRegex Scanner.scanRegex?
  rw [Act.bind_of_ok (skippedPosition_of_holds h), Act.bind_of_ok (matchAt_of_at h.skipped regex)]
  cases hmatch : regex.matchFrom s.scanner.skippedCursor with
  | none => rfl
  | some m =>
    have hat := h.skipped.moved (Regex.matchFrom_ahead hmatch).text_eq
    exact Act.bind_of_ok (moveTo_of_holds h hat)

/-- The last line before a boundary is cut out at boundaries, too. -/
theorem lineColumn_of_at {offset : Nat} {c : Cursor} (hc : mc.At offset c) :
    mc.lineColumn offset r = .ok (c.line, c.column) r := by
  have hbefore : mc.slice 0 offset r = .ok c.before.reverse r := by
    refine slice_of ⟨[], c.after, ?_, rfl, ?_⟩
    · rw [← hc.text_eq]
      rfl
    · rw [List.nil_append, byteLength_reverse, hc.offset_eq, c.offset_eq]
  -- What is behind is kept in reverse, so the current line comes first in it.
  let last := c.before.takeWhile (· != '\n')
  let earlier := c.before.dropWhile (· != '\n')
  have hsplit : last ++ earlier = c.before := List.takeWhile_append_dropWhile
  have hreverse : c.before.reverse = earlier.reverse ++ last.reverse := by
    rw [← hsplit, List.reverse_append]
  have hline : mc.slice (byteLength earlier) offset r = .ok last.reverse r := by
    refine slice_of ⟨earlier.reverse, c.after, ?_, ?_, ?_⟩
    · rw [← hreverse, ← hc.text_eq]
      rfl
    · rw [byteLength_reverse]
    · rw [← hreverse, byteLength_reverse, hc.offset_eq, c.offset_eq]
  unfold lineColumn
  rw [Act.bind_of_ok hbefore, List.reverse_reverse, Act.bind_of_ok hline, List.length_reverse,
    List.count_reverse]
  rfl

end Scan

section Note

/-- What is noted at an offset that is not before the furthest one. -/
theorem record_at {f : Furthest} {place offset : Nat} {c : Cursor} (hf : mc.At place f.cursor)
    (hc : mc.At offset c) (label : Unit → String) (hle : ¬ offset < place) :
    let expected := if place < offset then [] else f.expected
    mc.At offset (f.record c label).cursor ∧
      (f.record c label).expected =
        if expected.contains (label ()) then expected else expected ++ [label ()] := by
  have hplace := hf.offset_eq
  have hoffset := hc.offset_eq
  rw [hplace, hoffset] at hle
  rw [hplace, hoffset]
  intro expected
  unfold Furthest.record
  rw [if_neg hle]
  dsimp only
  by_cases hfurther : f.cursor.offset < c.offset
  · -- Further on nothing was expected yet.
    have hfresh : expected = [] := if_pos hfurther
    rw [if_pos hfurther, hfresh]
    exact ⟨⟨rfl, hc.text_eq⟩, by simp⟩
  · -- It is the same place, for it is not before it either.
    have hkept : expected = f.expected := if_neg hfurther
    have hsame : mc.At c.offset f.cursor := ⟨by omega, hf.text_eq⟩
    rw [if_neg hfurther, hkept]
    split
    · exact ⟨hsame, rfl⟩
    · exact ⟨hsame, rfl⟩

theorem record_mirrors (h : mc.Holds d q r s) {offset : Nat} {c : Cursor} (hc : mc.At offset c)
    (label : Unit → String) :
    mc.Mirrors d q Eq (mc.record offset label r) (Eval.record c label s) := by
  have hquiet : 0 < r.quiet ↔ 0 < s.quiet := by
    rw [h.quiet, h.quiet_eq, UInt32.lt_iff_toNat_lt, UInt32.toNat_zero]
  have hstep : Eval.record c label s = .ok () (if 0 < s.quiet then s
      else { s with furthest := s.furthest.record c label }) := rfl
  unfold record
  rw [Act.bind_get, hstep]
  by_cases hinside : 0 < s.quiet
  · rw [if_pos (Or.inl (hquiet.mpr hinside)), if_pos hinside]
    exact Mirrors.ok rfl h
  rw [if_neg hinside]
  -- The machine tests this before it makes the label, the engine while it notes.
  by_cases hearlier : offset < r.place
  · have hsame : s.furthest.record c label = s.furthest := by
      have hplace := h.place.offset_eq
      have hoffset := hc.offset_eq
      unfold Furthest.record
      exact if_pos (by omega)
    rw [if_pos (Or.inr hearlier), hsame]
    exact Mirrors.ok rfl h
  · have hneither : ¬ (0 < r.quiet ∨ offset < r.place) := by
      rw [hquiet]
      exact not_or.mpr ⟨hinside, hearlier⟩
    obtain ⟨hat, hexpected⟩ := record_at h.place hc label hearlier
    rw [← h.expected] at hexpected
    rw [if_neg hneither]
    apply Mirrors.update fun s => { s with furthest := s.furthest.record c label }
    exact { h with place := hat, expected := hexpected.symm }

theorem observe_of_inBounds (h : mc.InBounds r) (f : σ → σ) :
    mc.observe f r = .ok () { r with trace := f r.trace } :=
  if_pos ⟨h.position, h.marks, h.place, h.depth, h.quiet⟩

theorem observe_mirrors (h : mc.Holds d q r s) (f : σ → σ) :
    mc.Mirrors d q Eq (mc.observe f r)
      ((modify fun s => { s with trace := f s.trace } : Eval σ Unit) s) :=
  Mirrors.update _ { h with trace := congrArg f h.trace }

theorem backtracked_mirrors (h : mc.Holds d q r s) {offset : Nat} {c : Cursor}
    (hc : mc.At offset c) :
    mc.Mirrors d q Eq (mc.backtracked offset r) (Eval.backtracked mc.tracer c s) := by
  have hposition : r.position = s.scanner.position := h.position.offset_eq
  have hstep : Eval.backtracked mc.tracer c s = .ok () (if c.offset = s.scanner.position then s
      else { s with trace := mc.tracer.backtrack c.offset s.scanner.position s.trace }) := rfl
  unfold backtracked
  rw [bind_position, hstep, hc.offset_eq, hposition]
  by_cases hstays : c.offset = s.scanner.position
  · rw [if_pos hstays, if_pos hstays]
    exact Mirrors.ok rfl h
  · rw [if_neg hstays, if_neg hstays]
    exact observe_mirrors h _

theorem rewind_mirrors (h : mc.Holds d q r s) {offset : Nat} {c : Cursor} (hc : mc.At offset c) :
    mc.Mirrors d q Eq (mc.rewind offset r) (Eval.rewind mc.tracer c s) := by
  unfold rewind Eval.rewind
  rw [bind_position, Eval.bind_cursor]
  apply (reset_mirrors h hc).andThen
  intro r' s' h'
  exact backtracked_mirrors h' h.position

theorem noMatch_mirrors {α β : Type} {R : α → β → Prop} (h : mc.Holds d q r s) :
    mc.Mirrors d q R ((mc.noMatch : Act σ α) r) ((Engine.noMatch : Eval σ β) s) := by
  have hstep : (Engine.noMatch : Eval σ β) s = .error s.furthest.error s := rfl
  unfold noMatch
  rw [Act.bind_get, Act.bind_of_ok (lineColumn_of_at h.place), hstep, h.place.offset_eq, h.expected]
  exact Mirrors.fail h _

end Note

section Leaf

theorem literal_mirrors (h : mc.Holds d q r s) (e : Element) (text : String) :
    mc.Mirrors d q Eq (mc.literal e text r) (Engine.literal e text s) := by
  have hscan := scanLiteral_of_holds h text
  unfold literal Engine.literal
  rw [Act.bind_of_ok (skippedPosition_of_holds h), Eval.bind_get]
  cases hfound : s.scanner.scanLiteral? text with
  | none =>
    rw [hfound] at hscan
    rw [Act.bind_of_ok hscan]
    exact (record_mirrors h h.skipped _).then_pure rfl
  | some t =>
    obtain ⟨c, rfl, hpasses⟩ := Scanner.scanLiteral?_passes hfound
    have hmoved := h.moved (h.skipped.moved hpasses.text_eq)
    rw [hfound] at hscan
    rw [Act.bind_of_ok hscan]
    exact Mirrors.ok rfl hmoved

theorem pattern_mirrors (h : mc.Holds d q r s) (e : Element) (regex : Regex) (capture : Capture) :
    mc.Mirrors d q Eq (mc.pattern e regex capture r) (Engine.pattern e regex capture s) := by
  have hscan := scanRegex_of_holds h regex
  unfold pattern Engine.pattern
  rw [Act.bind_of_ok (skippedPosition_of_holds h), Eval.bind_get]
  cases hfound : s.scanner.scanRegex? regex with
  | none =>
    rw [hfound] at hscan
    rw [Act.bind_of_ok hscan]
    exact (record_mirrors h h.skipped _).then_pure rfl
  | some found =>
    obtain ⟨m, t⟩ := found
    obtain ⟨c, rfl, hpasses⟩ := Scanner.scanRegex?_passes hfound
    have hmoved := h.moved (h.skipped.moved hpasses.text_eq)
    rw [hfound] at hscan
    rw [Act.bind_of_ok hscan]
    exact Mirrors.ok rfl hmoved

theorem endOfInput_mirrors (h : mc.Holds d q r s) (e : Element) :
    mc.Mirrors d q Eq (mc.endOfInput e r) (Engine.endOfInput e s) := by
  have hmoved := h.moved h.skipped
  unfold endOfInput Engine.endOfInput
  rw [bind_position, Act.bind_of_ok (skipNow_of_holds h), Act.bind_of_ok (atEnd_of_skipped h),
    Eval.bind_get]
  cases s.scanner.skipNow.atEnd with
  | true => exact Mirrors.ok rfl hmoved
  | false =>
    rw [if_neg Bool.false_ne_true, if_neg Bool.false_ne_true, bind_position]
    -- The machine goes back to where it was; the engine has not moved.
    have hback := moveTo_of_holds hmoved h.position
    have hreset : mc.reset r.position { r with position := s.scanner.skippedCursor.offset } =
        .ok () r := by
      unfold reset
      rw [if_pos h.position.boundary, Nat.min_eq_left h.position.le_size]
      exact hback
    rw [Act.bind_of_ok hreset]
    exact (record_mirrors h h.skipped _).then_pure rfl

/-- Cutting out what a leaf has passed, a machine finds what an engine finds. -/
theorem matchedText_of_holds (h : mc.Holds d q r s) {mark : Nat} {c : Cursor}
    (hc : mc.At mark c) : mc.matchedText mark r = .ok (Engine.matchedText s.scanner c) r := by
  have hposition := h.position
  have hslice := Cursor.slice_upTo (hc.text_eq.trans hposition.text_eq.symm)
  rw [hposition.text_eq, ← hc.offset_eq, ← hposition.offset_eq] at hslice
  have hsince : mc.since mark r = .ok (s.scanner.since c) r := by
    unfold since
    rw [bind_position]
    exact slice_of hslice
  unfold matchedText Engine.matchedText
  rw [Act.bind_of_ok hsince, h.skip]
  rfl

theorem converted_of_holds (h : mc.Holds d q r s) {mark : Nat} {c : Cursor} (hc : mc.At mark c)
    (f : String → Option Value) (out : Option Contribution) :
    mc.converted f mark out r =
      .ok (out.bind fun out => f (Engine.leafText s.scanner c out)) r := by
  have htext := matchedText_of_holds h hc
  unfold converted
  split
  · rfl
  · next out hout =>
    -- A text that the child gave is converted as it is; here it gave none.
    have hleaf : Engine.leafText s.scanner c out = Engine.matchedText s.scanner c := by
      unfold Engine.leafText
      split
      · next t => exact absurd rfl (hout t)
      · rfl
    rw [Act.bind_of_ok htext, Option.bind_some, hleaf]
    rfl
  · rfl

end Leaf

end Peg.Machine
