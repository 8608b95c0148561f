import Peg.Grammar.Combinator
import Peg.Proofs.Soundness

/-!
Where an evaluation leaves the cursor: a match goes forward in the text and
does not stop among the characters that are skipped in front of it, and all
else goes back to where it started.
-/
namespace Peg

namespace BigStep

variable {k : Context}

theorem Context.ahead_skipped (k : Context) (c : Cursor) : c.Ahead (k.skipped c) := by
  obtain ⟨gap, hpasses, -⟩ := k.passes_skipped c
  exact hpasses.ahead

/-- The cursor went forward from `c` to `d`, if it moved at all, and at least
over the characters that are skipped at `c`. -/
structure Advances (k : Context) (c d : Cursor) : Prop where
  ahead : c.Ahead d
  clear : d = c ∨ (k.skipped c).offset ≤ d.offset

namespace Advances

theorem refl (c : Cursor) : Advances k c c :=
  ⟨Cursor.Ahead.refl c, Or.inl rfl⟩

theorem trans {c d e : Cursor} (hcd : Advances k c d) (hde : Advances k d e) :
    Advances k c e := by
  rcases hcd.clear with rfl | hclear
  · exact hde
  · exact ⟨hcd.ahead.trans hde.ahead, Or.inr (Nat.le_trans hclear hde.ahead.offset_le)⟩

theorem of_skipped {c d : Cursor} (h : (k.skipped c).Ahead d) : Advances k c d :=
  ⟨(k.ahead_skipped c).trans h, Or.inr h.offset_le⟩

end Advances

/-- The meaning that tells nothing but that matches advance. -/
def Advancing (k : Context) : Meaning :=
  fun _ c o _ _ => ∀ out d, o = some (out, d) → Advances k c d

theorem All.advances {es : List Element} {c : Cursor} {o : Option (List Value × Cursor)}
    {n h : Nat} (ha : All (Advancing k) es c o n h) (items : List Value) (d : Cursor)
    (ho : o = some (items, d)) : Advances k c d := by
  induction ha generalizing items with
  | nil c =>
    obtain ⟨-, rfl⟩ : [] = items ∧ c = d := by simpa using ho
    exact Advances.refl c
  | miss _ => cases ho
  | cons first _ _ ih =>
    obtain ⟨⟨others, stop⟩, rfl, heq⟩ := Option.map_eq_some_iff.mp ho
    obtain ⟨-, rfl⟩ : _ ∧ stop = d := by simpa using heq
    exact (first _ _ rfl).trans (ih others rfl)

theorem First.advances {es : List Element} {c : Cursor} {o : Outcome} {n h : Nat}
    (hf : First (Advancing k) es c o n h) (out : Contribution) (d : Cursor)
    (ho : o = some (out, d)) : Advances k c d := by
  induction hf with
  | nil c => cases ho
  | hit first => exact first _ _ ho
  | next _ _ ih => exact ih ho

theorem Rounds.advances {count total n h : Nat} {child : Element} {most : Option Nat}
    {c stop : Cursor} {items : List Value}
    (hr : Rounds (Advancing k) count child most c total items stop n h) : Advances k c stop := by
  induction hr with
  | full c _ => exact Advances.refl c
  | stop _ _ => exact Advances.refl _
  | round _ first _ _ _ ih => exact (first _ _ rfl).trans ih

theorem More.advances {count total n h : Nat} {item separator : Element} {most : Option Nat}
    {c stop : Cursor} {items : List Value}
    (hm : More (Advancing k) count item separator most c total items stop n h) :
    Advances k c stop := by
  induction hm with
  | full c _ => exact Advances.refl c
  | noSeparator _ _ => exact Advances.refl _
  | noItem _ _ _ => exact Advances.refl _
  | still _ _ _ _ => exact Advances.refl _
  | item _ first second _ _ _ _ ih => exact ((first _ _ rfl).trans (second _ _ rfl)).trans ih

theorem Listed.advances {total n h : Nat} {item separator : Element} {most : Option Nat}
    {c stop : Cursor} {items : List Value}
    (hl : Listed (Advancing k) item separator most c total items stop n h) :
    Advances k c stop := by
  cases hl with
  | closed c => exact Advances.refl c
  | empty _ _ => exact Advances.refl c
  | item _ first _ _ others => exact (first _ _ rfl).trans others.advances

theorem OfKind.advances {kind : Kind Element} {c : Cursor} {o : Outcome} {n h : Nat}
    (hk : OfKind (Advancing k) k kind c o n h) (out : Contribution) (d : Cursor)
    (ho : o = some (out, d)) : Advances k c d := by
  cases hk with
  | literal skips found =>
    obtain rfl := skips_iff.mp skips
    cases ho
    exact Advances.of_skipped found.ahead
  | pattern skips found _ =>
    obtain rfl := skips_iff.mp skips
    cases ho
    exact Advances.of_skipped (Regex.matchFrom_ahead found)
  | sequence all =>
    obtain ⟨⟨items, stop⟩, rfl, heq⟩ := Option.map_eq_some_iff.mp ho
    cases heq
    exact all.advances items d rfl
  | alternation first => exact first.advances out d ho
  | repetition rounds _ =>
    cases ho
    exact rounds.advances
  | separated listed _ =>
    cases ho
    exact listed.advances
  | convert inner _ =>
    cases ho
    exact inner _ _ rfl
  | endOfInput skips _ =>
    obtain rfl := skips_iff.mp skips
    cases ho
    exact Advances.of_skipped (Cursor.Ahead.refl _)
  | rule inner => exact inner out d ho
  | backref _ inner => exact inner out d ho
  | noLiteral _ _ | noPattern _ _ | fewRounds _ _ | fewItems _ _ | refused _ _ | noConvert _
  | notEnd _ _ => cases ho

/-- A match never goes back, and never stops among skipped characters. -/
theorem Yields.advances {e : Element} {c d : Cursor} {out : Contribution} {n h : Nat}
    (hy : Yields k e c (some (out, d)) n h) : Advances k c d := by
  refine Yields.induct (P := Advancing k) ?_ hy out d rfl
  intro e c o n h hkind out d ho
  obtain ⟨⟨out', stop⟩, rfl, heq⟩ := Option.map_eq_some_iff.mp ho
  cases heq
  exact hkind.advances out' d rfl

end BigStep

variable {σ : Type}

/-- An element that does not match leaves the cursor exactly where it was. One
that matches leaves it at a boundary of the text, either where it was or at
least behind the characters skipped there. -/
theorem eval_position (en : Engine σ) (room : Nat) (e : Element) (s t : State σ)
    (r : Option Contribution) (h : en.eval room e s = .ok r t) :
    t.scanner.source = s.scanner.source ∧
      (r = none → t.scanner.position = s.scanner.position) ∧
      (r ≠ none → s.scanner.position ≤ t.scanner.position ∧
        t.scanner.position ≤ byteLength s.scanner.source ∧
        Boundary s.scanner.source t.scanner.position ∧
        (t.scanner.position = s.scanner.position ∨
          s.scanner.skippedPosition ≤ t.scanner.position)) := by
  have hfollows := BigStep.eval_follows (k := BigStep.contextOf en.rules s) en rfl room e s rfl
  obtain ⟨hback, n, height, -, -, hyields⟩ := hfollows.of_ok h
  cases r with
  | none =>
    have hcursor : t.scanner.cursor = s.scanner.cursor := hback rfl
    refine ⟨congrArg Cursor.text hcursor, ?_, nofun⟩
    intro _
    exact congrArg Cursor.offset hcursor
  | some out =>
    have hadvances := hyields.advances
    have htext : t.scanner.source = s.scanner.source := hadvances.ahead.text_eq
    refine ⟨htext, nofun, ?_⟩
    intro _
    refine ⟨hadvances.ahead.offset_le, ?_, ?_, ?_⟩
    · rw [← htext]
      exact t.scanner.cursor.offset_le_byteLength
    · rw [← htext]
      exact t.scanner.cursor.boundary
    · rcases hadvances.clear with hsame | hclear
      · exact Or.inl (congrArg Cursor.offset hsame)
      · exact Or.inr hclear

/-- A blank and a letter were passed when the second literal failed. -/
theorem failed_sequence_position :
    ∃ t, Engine.eval ⟨[], {}, .silent⟩ 2 (.sequence [.literal "a", .literal "b"])
        (Grammar.startState {} [' ', 'a', ' ', 'c'] ()) = .ok none t ∧
      t.scanner.position = 0 := by
  refine Exists.imp (fun t ht => ⟨ht, (eval_position _ _ _ _ t none ht).2.1 rfl⟩) ?_
  exact ⟨_, rfl⟩

end Peg
