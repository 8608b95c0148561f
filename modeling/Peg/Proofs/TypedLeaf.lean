import Peg.Grammar.Conversion
import Peg.Proofs.Correspondence
import Peg.Proofs.Fuel
import Peg.Proofs.Nesting
import Peg.Proofs.Tokens

/-!
What a typed leaf converts.

A typed leaf takes over the text that its child contributed, and where the child
contributed something else it cuts the text out and trims it. Both are the match
without the skipped characters in front. What a child contributes is a text only if
it comes from a single literal or pattern, as long as no flattened element and no
other typed leaf is in the way; and what is trimmed is what was skipped, as a token
never begins with a skipped character.
-/
namespace Peg

open Eval BigStep

/-- A word at the front of a text without its leading run is not trimmed. -/
theorem dropWhile_of_append_eq {p : Char → Bool} {text word rest : List Char}
    (h : text.dropWhile p = word ++ rest) : word.dropWhile p = word := by
  cases word with
  | nil => rfl
  | cons x word =>
    have hhead := List.head?_dropWhile_not p text
    rw [h] at hhead
    exact List.dropWhile_cons_of_neg (by simpa using hhead)

namespace BigStep

variable {g : Grammar} {k : Context}

/-- The meaning that tells nothing but that a text is contributed only by the token
that it is. -/
def Quoting (g : Grammar) (k : Context) : Meaning :=
  fun e c o _ _ => g.Uses e → ∀ own d, o = some (.one (.text own), d) →
    (k.skipped c).Passes d own.toList

theorem First.quotes {es : List Element} {c : Cursor} {o : Outcome} {n h : Nat}
    (hf : First (Quoting g k) es c o n h) (hes : ∀ e ∈ es, g.Uses e) (own : String) (d : Cursor)
    (ho : o = some (.one (.text own), d)) : (k.skipped c).Passes d own.toList := by
  induction hf with
  | nil c => cases ho
  | hit first => exact first (hes _ List.mem_cons_self) own d ho
  | next _ _ ih => exact ih (fun e he => hes e (List.mem_cons_of_mem _ he)) ho

theorem OfKind.quotes {e : Element} {c : Cursor} {o : Outcome} {n h : Nat}
    (hrules : k.rules = g.rules) (he : g.Uses e) (htyped : e.isTyped = false)
    (hk : OfKind (Quoting g k) k e.kind c o n h) (own : String) (d : Cursor)
    (ho : o = some (.one (.text own), d)) : (k.skipped c).Passes d own.toList := by
  have hchildren : ∀ d ∈ e.kind.children, g.Uses d := fun d hd => he.child hd
  have hreference : ∀ name target d, e.kind = .backref name target →
      k.rules.lookup target = some d → g.Uses d := by
    intro name target d hkind hheld
    rw [hrules] at hheld
    exact he.rule hkind hheld
  unfold Element.isTyped at htyped
  generalize e.kind = kind at hk htyped hchildren hreference
  cases hk with
  | literal skips found =>
    obtain rfl := skips_iff.mp skips
    cases ho
    exact found
  | pattern skips found gives =>
    obtain rfl := skips_iff.mp skips
    cases gives with
    | text =>
      cases ho
      exact Regex.matchFrom_passes found
    -- The groups make an object, which is no text.
    | named _ _ | numbered _ _ => cases ho
  | alternation first => exact first.quotes hchildren own d ho
  | rule inner => exact inner (hchildren _ List.mem_cons_self) own d ho
  | backref held inner => exact inner (hreference _ _ _ rfl held) own d ho
  | convert _ _ => cases htyped
  -- A list is no text, and neither is nothing.
  | sequence all =>
    obtain ⟨_, -, heq⟩ := Option.map_eq_some_iff.mp ho
    cases heq
  | repetition _ _ | separated _ _ | endOfInput _ _ => cases ho
  | noLiteral _ _ | noPattern _ _ | fewRounds _ _ | fewItems _ _ | refused _ _ | noConvert _
  | notEnd _ _ => cases ho

/-- Where nothing is flattened or converted, a text that is contributed is a token. -/
theorem Yields.quotes (hrules : k.rules = g.rules)
    (hg : ∀ e, g.Uses e → e.isFlattened = false ∧ e.isTyped = false) {e : Element} {c d : Cursor}
    {own : String} {n h : Nat} (hy : Yields k e c (some (.one (.text own), d)) n h)
    (he : g.Uses e) : (k.skipped c).Passes d own.toList := by
  refine Yields.induct (P := Quoting g k) ?_ hy he own d rfl
  intro e c o n h hkind he own d ho
  obtain ⟨⟨out, stop⟩, rfl, heq⟩ := Option.map_eq_some_iff.mp ho
  obtain ⟨hflat, htyped⟩ := hg e he
  obtain ⟨hout, rfl⟩ : out.decorate e.decor = .one (.text own) ∧ stop = d := by simpa using heq
  -- A stripped element contributes nothing, and a flattened one might be a list of one text.
  have hsame : out = .one (.text own) := by
    unfold Contribution.decorate at hout
    split at hout
    · cases hout
    · rwa [show e.decor.flattened = false from hflat, if_neg Bool.false_ne_true] at hout
  exact hkind.quotes hrules he htyped own stop (by rw [hsame])

/-- What is trimmed from a match is what was skipped in front of it, or nothing if the
match stayed where it was. -/
theorem Advances.trimmed_eq {c d : Cursor} (h : Advances k c d)
    (hk : k.skipped c = c.skipWhile (inSkip k.skip)) :
    (c.upTo d).dropWhile (inSkip k.skip) =
      textBetween c.text (min (k.skipped c).offset d.offset) d.offset := by
  have hskipped := k.ahead_skipped c
  rcases h.clear with rfl | hclear
  -- Where nothing was matched there is nothing to trim, whatever comes next.
  · rw [Nat.min_eq_right hskipped.offset_le, textBetween_of_passes (Cursor.Passes.refl d),
      (Cursor.Passes.refl d).upTo_eq]
    rfl
  · have hahead : (k.skipped c).Ahead d :=
      ⟨h.ahead.text_eq.trans hskipped.text_eq.symm, hclear⟩
    obtain ⟨word, hword⟩ := hahead.passes
    obtain ⟨gap, hgap, hskip⟩ := k.passes_skipped c
    -- The run that was skipped is the longest one, so trimming stops where the word begins.
    have hfront : c.after.dropWhile (inSkip k.skip) = word ++ d.after := by
      rw [← hword.after_eq, hk, Cursor.after_skipWhile]
    rw [Nat.min_eq_left hclear, ← hskipped.text_eq, textBetween_of_passes hword,
      (hgap.trans hword).upTo_eq, List.dropWhile_append_of_pos hskip]
    exact dropWhile_of_append_eq hfront

end BigStep

variable {σ : Type}

/-- The state in which the child of a typed leaf is evaluated: the leaf is open. -/
def State.openedLeaf (s : State σ) (tracer : Tracer σ) (e : Element) : State σ :=
  let opened := s.opened tracer e
  { opened with quiet := opened.quiet + 1 }

/-- The end of a typed leaf: the value of its text, or the way back. -/
def Engine.settle (e : Element) (mark : Cursor) : Option Value → Eval σ (Option Contribution)
  | some v => return some (.one v)
  | none => do
    reset mark
    record (← skippedCursor) fun _ => e.label
    return none

section Settled

variable {en : Engine σ} {room : Nat} {e child : Element} {name : Option String}
  {f : String → Option Value} {s t : State σ} {r : Option Contribution}

theorem Engine.settle_none {mark : Cursor} :
    let back := s.scanner.reset mark
    settle e mark none s = .ok none { s with
      scanner := back
      furthest := if 0 < s.quiet then s.furthest
        else s.furthest.record back.skippedCursor fun _ => e.label } := by
  intro back
  calc settle e mark none s
    _ = (record back.skippedCursor (fun _ => e.label) >>= fun _ => pure none)
        { s with scanner := back } := rfl
    _ = _ := bind_of_ok record_eq

/-- Once the child has ended, the typed leaf is settled and closed. -/
theorem eval_convert {value : Option Value} {out : Option Contribution} {u : State σ}
    (hkind : e.kind = .convert child name f)
    (hchild : en.eval room child (s.openedLeaf en.tracer e) = .ok r t)
    (hvalue : (r.bind fun out => f (Engine.leafText t.scanner s.scanner.cursor out)) = value)
    (hsettle : Engine.settle e s.scanner.cursor value { t with quiet := t.quiet - 1 } =
      .ok out u) :
    en.eval (room + 1) e s = en.close e s.scanner.cursor out u := by
  have hfuel : s.fuel ≠ 0 := by
    intro hempty
    rw [eval_of_empty en child room (Nat.sub_eq_zero_of_le (by omega))] at hchild
    cases hchild
  have hconvert : Engine.convert (en.eval room) e child f (s.opened en.tracer e) =
      Engine.settle e s.scanner.cursor
        (r.bind fun out => f (Engine.leafText t.scanner s.scanner.cursor out))
        { t with quiet := t.quiet - 1 } :=
    bind_of_ok (m := en.eval room child) hchild
  rw [hvalue, hsettle] at hconvert
  rw [eval_of_fuel en e room hfuel, Engine.evalKind, hkind]
  exact bind_of_ok hconvert

/-- A typed leaf matches where the text of its child has a value. -/
theorem eval_convert_of_some (hkind : e.kind = .convert child name f)
    (hchild : en.eval room child (s.openedLeaf en.tracer e) = .ok r t) {v : Value}
    (hvalue : (r.bind fun out => f (Engine.leafText t.scanner s.scanner.cursor out)) = some v) :
    ∃ trace, en.eval (room + 1) e s = .ok (some ((Contribution.one v).decorate e.decor))
      { t with depth := t.depth - 1, quiet := t.quiet - 1, trace := trace } := by
  rw [eval_convert hkind hchild hvalue rfl]
  exact ⟨_, rfl⟩

/-- Otherwise it goes back and notes that it was expected itself. -/
theorem eval_convert_of_none (hkind : e.kind = .convert child name f)
    (hchild : en.eval room child (s.openedLeaf en.tracer e) = .ok r t)
    (hvalue : (r.bind fun out => f (Engine.leafText t.scanner s.scanner.cursor out)) = none) :
    let back := t.scanner.reset s.scanner.cursor
    ∃ trace, en.eval (room + 1) e s = .ok none { t with
      scanner := back
      depth := t.depth - 1
      quiet := t.quiet - 1
      furthest := if 0 < t.quiet - 1 then t.furthest
        else t.furthest.record back.skippedCursor fun _ => e.label
      trace := trace } := by
  intro back
  rw [eval_convert hkind hchild hvalue Engine.settle_none]
  exact ⟨_, rfl⟩

/-- An error of the child ends the evaluation. -/
theorem eval_convert_of_error {error : ParseError} (hkind : e.kind = .convert child name f)
    (hfuel : s.fuel ≠ 0)
    (hchild : en.eval room child (s.openedLeaf en.tracer e) = .error error t) :
    en.eval (room + 1) e s = .error error t := by
  have hconvert : Engine.convert (en.eval room) e child f (s.opened en.tracer e) =
      .error error t :=
    bind_of_error (m := en.eval room child) hchild
  rw [eval_of_fuel en e room hfuel, Engine.evalKind, hkind]
  exact bind_of_error hconvert

/-- A typed leaf whose child matched comes to what its conversion makes of the text. -/
theorem eval_of_match {out : Contribution} (hkind : e.kind = .convert child name f)
    (hmatch : en.eval room child (s.openedLeaf en.tracer e) = .ok (some out) t) :
    let result := f (Engine.leafText t.scanner s.scanner.cursor out)
    ∃ u, en.eval (room + 1) e s =
        .ok (result.map fun v => (Contribution.one v).decorate e.decor) u ∧
      u.scanner.cursor = if result.isSome then t.scanner.cursor else s.scanner.cursor := by
  intro result
  cases hresult : result with
  | some v =>
    obtain ⟨trace, heval⟩ := eval_convert_of_some hkind hmatch hresult
    exact ⟨_, heval, rfl⟩
  | none =>
    obtain ⟨trace, heval⟩ := eval_convert_of_none hkind hmatch hresult
    exact ⟨_, heval, rfl⟩

end Settled

/-- A typed leaf converts the text of its match: from the first character that is not
skipped up to the end, or nothing if the match ends before. The text of its child, if
the child has contributed one, is just this text, and so is the text that is cut out
and trimmed. It holds for every place in the text, and for every skip set or none, as
no evaluation suppresses skipping. -/
theorem typed_leaf_converts_match (en : Engine σ) (room : Nat) (e child : Element)
    (name : Option String) (f : String → Option Value) (s t : State σ) (out : Contribution)
    (hkind : e.kind = .convert child name f)
    (hchild : ∀ d, Grammar.Uses ⟨child, en.rules⟩ d → d.isFlattened = false ∧ d.isTyped = false)
    (hskip : s.scanner.suppressed = 0)
    (hmatch : en.eval room child (s.openedLeaf en.tracer e) = .ok (some out) t) :
    let stop := t.scanner.position
    let word := String.ofList
      (textBetween s.scanner.source (min s.scanner.skippedPosition stop) stop)
    (∀ own, out = .one (.text own) → own = word) ∧
      Engine.matchedText t.scanner s.scanner.cursor = word ∧
      ∃ u, en.eval (room + 1) e s =
          .ok ((f word).map fun v => (Contribution.one v).decorate e.decor) u ∧
        u.scanner.position = if (f word).isSome then stop else s.scanner.position := by
  intro stop word
  let k := contextOf en.rules s
  have hcontext : contextOf k.rules (s.openedLeaf en.tracer e) = k := rfl
  have hfollows := eval_follows en rfl room child (s.openedLeaf en.tracer e) hcontext
  obtain ⟨-, n, height, hkept, -, hyields⟩ := hfollows.of_ok hmatch
  have hgap : k.skipped s.scanner.cursor = s.scanner.cursor.skipWhile (inSkip k.skip) :=
    Scanner.skippedCursor_eq hskip
  have hmatched : Yields k child s.scanner.cursor (some (out, t.scanner.cursor)) n height :=
    hyields
  have htrimmed := hmatched.advances.trimmed_eq hgap
  have hcut : Engine.matchedText t.scanner s.scanner.cursor = word := by
    rw [Engine.matchedText_eq, hkept.skip]
    exact congrArg String.ofList htrimmed
  -- A text of the child is a token, and a token begins behind the skipped run.
  have hown : ∀ own, out = .one (.text own) → own = word := by
    rintro own rfl
    have htoken := hmatched.quotes (g := ⟨child, en.rules⟩) rfl hchild Grammar.Uses.root
    have hpassed := textBetween_of_passes htoken
    rw [(k.ahead_skipped s.scanner.cursor).text_eq] at hpassed
    have hle : s.scanner.skippedPosition ≤ stop := htoken.ahead.offset_le
    have hword : word = String.ofList own.toList := by
      rw [← hpassed]
      change String.ofList (textBetween _ (min s.scanner.skippedPosition stop) stop) = _
      rw [Nat.min_eq_left hle]
      rfl
    rw [hword, String.ofList_toList]
  have hleaf : Engine.leafText t.scanner s.scanner.cursor out = word := by
    unfold Engine.leafText
    split
    · exact hown _ rfl
    · exact hcut
  obtain ⟨u, heval, hcursor⟩ := eval_of_match hkind hmatch
  rw [hleaf] at heval hcursor
  refine ⟨hown, hcut, u, heval, ?_⟩
  unfold Scanner.position
  rw [hcursor]
  split
  · rfl
  · rfl

/-- Blanks are skipped in front of both leaves. The child of the first one is a rule
with a literal, whose text is taken over, and that of the second one is a sequence,
from whose match the text is cut out. -/
theorem both_leaves_convert_letters :
    let literal : Element := .ofKind (.rule (some 0) "ab" (.literal "ab"))
    let letters : Element := .sequence [(Element.literal "a").strip, .literal "b"]
    let leaf (child : Element) : Eval Unit (Option Contribution) :=
      Engine.eval ⟨[], {}, .silent⟩ 4 (child.convert Conversion.nonempty)
    let s : State Unit := Grammar.startState {} [' ', ' ', 'a', 'b', ' '] ()
    (∃ u, leaf literal s = .ok (some (.one (.text "ab"))) u ∧ u.scanner.position = 4) ∧
      ∃ u, leaf letters s = .ok (some (.one (.text "ab"))) u ∧ u.scanner.position = 4 := by
  intro literal letters leaf s
  have hchildren : ∀ child ∈ [literal, letters],
      (child.all fun d => !d.isFlattened && !d.isTyped) = true ∧
        passes (Engine.eval ⟨[], {}, .silent⟩ 3 child)
          (s.openedLeaf .silent (child.convert Conversion.nonempty))
          (fun r t => r.isSome && t.scanner.position == 4) = true := by
    decide +kernel
  have hleaves : ∀ child ∈ [literal, letters],
      ∃ u, leaf child s = .ok (some (.one (.text "ab"))) u ∧ u.scanner.position = 4 := by
    intro child hmem
    obtain ⟨hplain, hpasses⟩ := hchildren child hmem
    obtain ⟨r, t, hmatch, htest⟩ := exists_ok_of_passes hpasses
    obtain ⟨hsome, hstop⟩ : r.isSome = true ∧ t.scanner.position = 4 := by simpa using htest
    obtain ⟨out, rfl⟩ := Option.isSome_iff_exists.mp hsome
    have hchild : ∀ d, Grammar.Uses ⟨child, []⟩ d → d.isFlattened = false ∧ d.isTyped = false := by
      intro d hd
      simpa using hd.passes hplain rfl
    obtain ⟨-, -, u, heval, hposition⟩ := typed_leaf_converts_match ⟨[], {}, .silent⟩ 3
      (child.convert Conversion.nonempty) child none Conversion.nonempty s t out rfl hchild rfl
      hmatch
    have hword : String.ofList (textBetween s.scanner.source
        (min s.scanner.skippedPosition t.scanner.position) t.scanner.position) = "ab" := by
      rw [hstop]
      decide +kernel
    rw [hword] at heval hposition
    exact ⟨u, heval, hposition.trans hstop⟩
  exact ⟨hleaves literal (by simp), hleaves letters (by simp)⟩

end Peg
