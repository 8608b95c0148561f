import Mathlib.Data.List.TakeWhile
import Peg.Proofs.Scan

/-!
The text between two cursors.

A cursor that goes forward passes a word: what was ahead of it is this word and
what is still ahead. An offset has one cursor at most, so the offsets in a text
and the cursors in it tell the same.
-/
namespace Peg

theorem eq_nil_of_byteLength {word : List Char} (h : byteLength word = 0) : word = [] := by
  cases word with
  | nil => rfl
  | cons x rest =>
    have hx := x.utf8Size_pos
    rw [byteLength_cons] at h
    omega

theorem takeBytes_append (word rest : List Char) :
    takeBytes (byteLength word) (word ++ rest) = word := by
  induction word with
  | nil =>
    cases rest with
    | nil => rfl
    | cons x rest =>
      have hx : ¬ x.utf8Size ≤ 0 := Nat.not_le.mpr x.utf8Size_pos
      simp [takeBytes, hx]
  | cons x word ih => simp [takeBytes, ih]

theorem cutBytes_append (word before rest : List Char) :
    cutBytes (byteLength word) before (word ++ rest) = some (word.reverse ++ before, rest) := by
  induction word generalizing before with
  | nil => simp [cutBytes]
  | cons x word ih =>
    obtain ⟨n, hn⟩ := Nat.exists_eq_succ_of_ne_zero
      (Nat.ne_of_gt (Nat.add_pos_left x.utf8Size_pos (byteLength word)))
    have hfits : x.utf8Size ≤ n + 1 := by omega
    have hleft : n + 1 - x.utf8Size = byteLength word := by omega
    rw [byteLength_cons, hn, List.cons_append, cutBytes, if_pos hfits, hleft, ih]
    simp

theorem text_of_cutBytes {n : Nat} {before after b a : List Char}
    (h : cutBytes n before after = some (b, a)) : b.reverse ++ a = before.reverse ++ after := by
  induction after generalizing n before with
  | nil =>
    cases n with
    | zero =>
      cases h
      rfl
    | succ n => cases h
  | cons x rest ih =>
    cases n with
    | zero =>
      cases h
      rfl
    | succ n =>
      rw [cutBytes] at h
      split at h
      · rw [ih h]
        simp
      · cases h

namespace Cursor

/-- From `c` to `d` the cursor passes `word`. -/
structure Passes (c d : Cursor) (word : List Char) : Prop where
  before_eq : d.before = word.reverse ++ c.before
  after_eq : c.after = word ++ d.after

theorem eq_of_parts {c d : Cursor} (hbefore : c.before = d.before) (hafter : c.after = d.after) :
    c = d := by
  have hoffset : c.offset = d.offset := by rw [c.offset_eq, d.offset_eq, hbefore]
  cases c
  cases d
  simp_all

namespace Passes

variable {c d e : Cursor} {word word' : List Char}

theorem refl (c : Cursor) : c.Passes c [] :=
  ⟨rfl, rfl⟩

theorem trans (hcd : c.Passes d word) (hde : d.Passes e word') : c.Passes e (word ++ word') where
  before_eq := by rw [hde.before_eq, hcd.before_eq, List.reverse_append, List.append_assoc]
  after_eq := by rw [hcd.after_eq, hde.after_eq, List.append_assoc]

theorem text_eq (h : c.Passes d word) : d.text = c.text := by
  simp [text, h.before_eq, h.after_eq]

theorem offset_eq (h : c.Passes d word) : d.offset = c.offset + byteLength word := by
  rw [d.offset_eq, c.offset_eq, h.before_eq, byteLength_append, byteLength_reverse]
  exact Nat.add_comm _ _

theorem ahead (h : c.Passes d word) : c.Ahead d :=
  ⟨h.text_eq, h.offset_eq ▸ Nat.le_add_right _ _⟩

/-- The word and what is ahead of it tell the cursor behind it. -/
theorem eq_past (h : c.Passes d word) : d = c.past word d.after :=
  eq_of_parts h.before_eq rfl

theorem eq_step {x : Char} (h : c.Passes d [x]) : d = c.step x d.after :=
  eq_of_parts h.before_eq rfl

theorem upTo_eq (h : c.Passes d word) : c.upTo d = word := by
  have hlength : d.offset - c.offset = byteLength word := by
    have hoffset := h.offset_eq
    omega
  rw [upTo, hlength, h.after_eq, takeBytes_append]

end Passes

theorem passes_past {c : Cursor} {word rest : List Char} (h : c.after = word ++ rest) :
    c.Passes (c.past word rest) word :=
  ⟨rfl, h⟩

theorem exists_passes_iff {c : Cursor} {word : List Char} :
    (∃ d, c.Passes d word) ↔ word <+: c.after := by
  constructor
  · rintro ⟨d, hd⟩
    exact ⟨d.after, hd.after_eq.symm⟩
  · rintro ⟨rest, hrest⟩
    exact ⟨_, passes_past hrest.symm⟩

theorem passes_step {c : Cursor} {x : Char} {rest : List Char} (h : c.after = x :: rest) :
    c.Passes (c.step x rest) [x] :=
  ⟨rfl, h⟩

theorem passes_skipFrom (p : Char → Bool) (c : Cursor) (ahead : List Char)
    (h : c.after = ahead) : c.Passes (skipFrom p c ahead) (ahead.takeWhile p) := by
  induction ahead generalizing c with
  | nil => exact Passes.refl c
  | cons x rest ih =>
    rw [skipFrom]
    by_cases hx : p x = true
    · rw [if_pos hx, List.takeWhile_cons_of_pos hx]
      exact (passes_step h).trans (ih (c.step x rest) rfl)
    · rw [if_neg hx, List.takeWhile_cons_of_neg hx]
      exact Passes.refl c

theorem passes_skipWhile (c : Cursor) (p : Char → Bool) :
    c.Passes (c.skipWhile p) (c.after.takeWhile p) :=
  passes_skipFrom p c c.after rfl

/-- Behind a run of characters that satisfy `p` there is the text without this run. -/
theorem after_skipWhile (c : Cursor) (p : Char → Bool) :
    (c.skipWhile p).after = c.after.dropWhile p := by
  have hpasses := (c.passes_skipWhile p).after_eq
  have hsplit : c.after.takeWhile p ++ c.after.dropWhile p = c.after :=
    List.takeWhile_append_dropWhile
  exact List.append_cancel_left (hpasses.symm.trans hsplit.symm)

/-- Where no character satisfies `p`, there is nothing to move over. -/
theorem skipWhile_of_takeWhile {c : Cursor} {p : Char → Bool}
    (h : c.after.takeWhile p = []) : c.skipWhile p = c := by
  have hpasses := c.passes_skipWhile p
  rw [h] at hpasses
  exact eq_of_parts hpasses.before_eq hpasses.after_eq.symm

theorem skipWhile_of_clear {c : Cursor} {p : Char → Bool}
    (h : ∀ x rest, c.after = x :: rest → p x = false) : c.skipWhile p = c := by
  apply skipWhile_of_takeWhile
  cases hafter : c.after with
  | nil => rfl
  | cons x rest => exact List.takeWhile_cons_of_neg (Bool.eq_false_iff.mp (h x rest hafter))

theorem skipWhile_of_cons {c : Cursor} {p : Char → Bool} {x : Char} {rest : List Char}
    (hafter : c.after = x :: rest) (hx : p x = true) :
    c.skipWhile p = (c.step x rest).skipWhile p := by
  rw [skipWhile, hafter, skipFrom, if_pos hx]
  rfl

/-- The cursors of a text in order have a word between them. -/
theorem Ahead.passes {c d : Cursor} (h : c.Ahead d) : ∃ word, c.Passes d word := by
  have htext : c.before.reverse ++ c.after = d.before.reverse ++ d.after := h.text_eq.symm
  rcases List.append_eq_append_iff.mp htext with ⟨word, hbefore, hafter⟩ | ⟨word, hbefore, hafter⟩
  · refine ⟨word, ?_, hafter⟩
    have hreverse := congrArg List.reverse hbefore
    simpa using hreverse
  · -- Here `d` is before `c`, which leaves no room for a word.
    have hlength : byteLength c.before = byteLength d.before + byteLength word := by
      have hbytes := congrArg byteLength hbefore
      simpa using hbytes
    have hle := h.offset_le
    rw [c.offset_eq, d.offset_eq] at hle
    obtain rfl : word = [] := eq_nil_of_byteLength (by omega)
    refine ⟨[], ?_, by simpa using hafter.symm⟩
    have hreverse := congrArg List.reverse hbefore
    simpa using hreverse.symm

/-- A text has one cursor at most at an offset. -/
theorem Ahead.eq_of_offset {c d : Cursor} (h : c.Ahead d) (hoffset : d.offset ≤ c.offset) :
    d = c := by
  obtain ⟨word, hword⟩ := h.passes
  have hlength := hword.offset_eq
  obtain rfl : word = [] := eq_nil_of_byteLength (by omega)
  exact eq_of_parts hword.before_eq hword.after_eq.symm

/-- A cursor is found again by its offset. -/
theorem ofOffset?_offset (c : Cursor) : ofOffset? c.text c.offset = some c := by
  have hcut : cutBytes c.offset [] c.text = some (c.before, c.after) := by
    have happend := cutBytes_append c.before.reverse [] c.after
    simpa [c.offset_eq, text] using happend
  unfold ofOffset?
  split
  · next before after heq =>
    obtain ⟨rfl, rfl⟩ : before = c.before ∧ after = c.after := by simpa [heq] using hcut
    rfl
  · next heq => simp [heq] at hcut

/-- An offset is a boundary if there is a cursor at it. -/
theorem boundary_iff_isSome {text : List Char} {offset : Nat} :
    (ofOffset? text offset).isSome = true ↔ Boundary text offset := by
  constructor
  · intro h
    unfold ofOffset? at h
    split at h
    · next before after hcut =>
      refine ⟨before.reverse, after, (text_of_cutBytes hcut).symm, ?_⟩
      rw [byteLength_reverse, byteLength_of_cutBytes hcut, byteLength_nil, Nat.zero_add]
    · cases h
  · intro h
    obtain ⟨c, rfl, rfl⟩ := exists_of_boundary h
    rw [c.ofOffset?_offset]
    rfl

instance (text : List Char) (offset : Nat) : Decidable (Boundary text offset) :=
  decidable_of_iff _ boundary_iff_isSome

end Cursor

theorem Regex.matchFrom_start {r : Regex} {c : Cursor} {m : Match} (h : r.matchFrom c = some m) :
    m.start = c := by
  unfold matchFrom at h
  obtain ⟨_, -, rfl⟩ := Option.map_eq_some_iff.mp h
  rfl

theorem Regex.matchFrom_names {r : Regex} {c : Cursor} {m : Match} (h : r.matchFrom c = some m) :
    m.names = r.names := by
  unfold matchFrom at h
  obtain ⟨_, -, rfl⟩ := Option.map_eq_some_iff.mp h
  rfl

/-- The text of a match is what the cursor passes from its start to its stop. -/
theorem Regex.matchFrom_passes {r : Regex} {c : Cursor} {m : Match} (h : r.matchFrom c = some m) :
    c.Passes m.stop m.text.toList := by
  obtain ⟨word, hword⟩ := (matchFrom_ahead h).passes
  rwa [Match.text, matchFrom_start h, hword.upTo_eq, String.toList_ofList]

/-- Whether a character is one of those that are skipped. -/
def inSkip (skip : Option CharSet) (x : Char) : Bool :=
  skip.any (·.contains x)

end Peg
