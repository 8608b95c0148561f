import Peg.Proofs.Threads
import Peg.Scanner.Basic

/-!
What scans do to a cursor: they stay in the text, they go forward, and a
literal is found exactly where the text goes on with it.
-/
namespace Peg

/-- The offset lies between two characters of the text or at one of its ends. -/
def Boundary (text : List Char) (offset : Nat) : Prop :=
  ∃ before after, text = before ++ after ∧ offset = byteLength before

namespace Cursor

theorem boundary (c : Cursor) : Boundary c.text c.offset :=
  ⟨c.before.reverse, c.after, rfl, by simp [c.offset_eq]⟩

theorem offset_le_byteLength (c : Cursor) : c.offset ≤ byteLength c.text := by
  simp [text, c.offset_eq]

theorem exists_of_boundary {text : List Char} {offset : Nat} (h : Boundary text offset) :
    ∃ c : Cursor, c.text = text ∧ c.offset = offset := by
  obtain ⟨before, after, rfl, rfl⟩ := h
  exact ⟨⟨before.reverse, after, byteLength before, by simp⟩, by simp [text], rfl⟩

/-- `d` is a cursor of the same text that is not before `c`. -/
structure Ahead (c d : Cursor) : Prop where
  text_eq : d.text = c.text
  offset_le : c.offset ≤ d.offset

namespace Ahead

theorem refl (c : Cursor) : Ahead c c :=
  ⟨rfl, Nat.le_refl _⟩

theorem trans {c d e : Cursor} (hcd : Ahead c d) (hde : Ahead d e) : Ahead c e :=
  ⟨hde.text_eq.trans hcd.text_eq, Nat.le_trans hcd.offset_le hde.offset_le⟩

end Ahead

theorem ahead_step {c : Cursor} {x : Char} {rest : List Char} (h : c.after = x :: rest) :
    Ahead c (c.step x rest) := by
  refine ⟨?_, Nat.le_add_right _ _⟩
  simp [text, step, h]

theorem ahead_past {c : Cursor} {word rest : List Char} (h : c.after = word ++ rest) :
    Ahead c (c.past word rest) := by
  refine ⟨?_, Nat.le_add_right _ _⟩
  simp [text, past, h]

end Cursor

namespace Scanner

theorem dropWord?_eq_some_iff {word text rest : List Char} :
    dropWord? word text = some rest ↔ text = word ++ rest := by
  induction word generalizing text with
  | nil => simp [dropWord?]
  | cons w word ih =>
    cases text with
    | nil => simp [dropWord?]
    | cons c text =>
      rw [dropWord?]
      by_cases hc : w = c
      · simp [hc, ih]
      · simp [hc, Ne.symm hc]

theorem dropWord?_eq_none_iff {word text : List Char} :
    dropWord? word text = none ↔ ¬ word <+: text := by
  rw [Option.eq_none_iff_forall_ne_some]
  constructor
  · rintro h ⟨rest, hrest⟩
    exact h rest (dropWord?_eq_some_iff.mpr hrest.symm)
  · intro h rest hrest
    exact h ⟨rest, (dropWord?_eq_some_iff.mp hrest).symm⟩

end Scanner

namespace Regex

/-- Threads that set out ahead of `start` stay ahead of it. -/
theorem ahead_lasting (program : Array Inst) (start : Cursor) :
    Lasting program fun c _ => start.Ahead c where
  follow h _ _ := h
  pass h ahead _ := h.trans (Cursor.ahead_step ahead)

/-- A match stops in the same text, at or behind the place where it starts. -/
theorem matchFrom_ahead {r : Regex} {c : Cursor} {m : Match} (h : r.matchFrom c = some m) :
    c.Ahead m.stop := by
  unfold matchFrom at h
  obtain ⟨⟨stop, t⟩, hfound, rfl⟩ := Option.map_eq_some_iff.mp h
  exact (ahead_lasting r.program c).search (Cursor.Ahead.refl c) hfound

end Regex

end Peg
