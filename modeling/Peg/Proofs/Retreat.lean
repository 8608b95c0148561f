import Mathlib.Data.List.Chain
import Peg.Grammar.Conversion
import Peg.Grammar.Combinator
import Peg.Proofs.Course
import Peg.Proofs.Upkeep

/-!
Where the cursor goes back.

Every event tells where it leaves the cursor. From one event to the next the
cursor goes back where an announcement says so, and where a typed leaf refuses
the text that its child has just matched. The walk of a run tells the first
kind from the second; that the child is the last to be told of before its leaf
fails is a property of histories that every step of a run keeps.
-/
namespace Peg

open Eval BigStep

/-- Where an event leaves the cursor. -/
def Event.offset : Event → Nat
  | .enter _ position | .failure _ position => position
  | .success _ _ stop | .backtrack _ stop => stop

/-- With the cursor at `p` before it, the event does not lead back, or it
announces that it does, or it is the failure of a typed leaf. -/
def Event.Announced (p : Nat) (ev : Event) : Prop :=
  ev.offset < p → ev = .backtrack p ev.offset ∨
    ∃ e position, ev = .failure e position ∧ e.isTyped = true

/-- Where the cursor is after some events, if it was at `p` before them. -/
def offsetAfter (p : Nat) (es : List Event) : Nat :=
  es.foldl (fun _ ev => ev.offset) p

/-- Every step back of the cursor, which is at `p` at first, is announced. -/
def Forewarned : Nat → List Event → Prop
  | _, [] => True
  | p, ev :: es => ev.Announced p ∧ Forewarned ev.offset es

theorem forewarned_append (p : Nat) (es es' : List Event) :
    Forewarned p (es ++ es') ↔ Forewarned p es ∧ Forewarned (offsetAfter p es) es' := by
  induction es generalizing p with
  | nil => simp [Forewarned, offsetAfter]
  | cons ev es ih =>
    have htail := ih ev.offset
    simp only [List.cons_append, Forewarned, htail, and_assoc]
    rfl

/-- In the middle of a history, the event before tells where the cursor was. -/
theorem Forewarned.announced {p : Nat} {before after : List Event} {a b : Event}
    (h : Forewarned p (before ++ a :: b :: after)) : b.Announced a.offset := by
  have hrest : Forewarned (offsetAfter p before) (a :: b :: after) :=
    ((forewarned_append p before (a :: b :: after)).mp h).2
  exact hrest.2.1

section Walk

variable {k : Context} {c d : Cursor} {es : List Event} {ns : List Note}

theorem BigStep.Walk.offsetAfter_eq (h : Walk k c d es ns) :
    offsetAfter c.offset es = d.offset := by
  induction h with
  | stay c => rfl
  | back _ _ _ ih => exact ih
  | @hit e c l m d inner es _ _ _ _ _ _ _ _ ih =>
    have hsplit : offsetAfter c.offset
        (.enter e c.offset :: (inner ++ .success e (k.tokenStart c m) m.offset :: es)) =
          offsetAfter m.offset es := by
      simp [offsetAfter, Event.offset]
    exact hsplit.trans ih
  | @miss e c l d inner es _ _ _ _ _ _ _ ih =>
    have hsplit : offsetAfter c.offset
        (.enter e c.offset :: (inner ++ .failure e c.offset :: es)) = offsetAfter c.offset es := by
      simp [offsetAfter, Event.offset]
    exact hsplit.trans ih

/-- An evaluation is opened where the cursor is, so that cannot lead back. -/
theorem forewarned_opened {e : Element} {p : Nat} {close : Event} {inner es : List Event}
    (hinner : Forewarned p inner) (hclose : close.Announced (offsetAfter p inner))
    (hrest : Forewarned close.offset es) :
    Forewarned p (.enter e p :: (inner ++ close :: es)) := by
  have hopen : (Event.enter e p).Announced p := fun hless => absurd hless (Nat.lt_irrefl p)
  have hinside : Forewarned p (inner ++ close :: es) :=
    (forewarned_append p inner (close :: es)).mpr ⟨hinner, hclose, hrest⟩
  exact ⟨hopen, hinside⟩

theorem BigStep.Walk.forewarned (h : Walk k c d es ns) : Forewarned c.offset es := by
  induction h with
  | stay c => trivial
  | back _ _ _ ih =>
    -- What is announced is the way from the place where the walk stands.
    exact ⟨fun _ => Or.inl rfl, ih⟩
  | @hit e c l m d inner es _ _ inside leaf node advances _ ihinner ih =>
    refine forewarned_opened ihinner ?_ ih
    intro hless
    have hle : offsetAfter c.offset inner ≤ m.offset := by
      cases hleaf : e.isLeaf with
      | true =>
        have hnone : inner = [] := leaf hleaf
        rw [hnone]
        exact advances.ahead.offset_le
      | false =>
        have hstop : l = m := node hleaf
        rw [inside.offsetAfter_eq, hstop]
    exact absurd hless (Nat.not_lt.mpr hle)
  | @miss e c l d inner es _ _ inside _ node _ ihinner ih =>
    refine forewarned_opened ihinner ?_ ih
    intro hless
    cases htyped : e.isTyped with
    | true => exact Or.inr ⟨e, c.offset, rfl, htyped⟩
    | false =>
      -- All others have gone back before they are closed.
      have hback : l = c := node htyped
      rw [inside.offsetAfter_eq, hback] at hless
      exact absurd hless (Nat.lt_irrefl c.offset)

theorem BigStep.Cut.forewarned (h : Cut k c es) : Forewarned c.offset es := by
  induction h with
  | here walk => exact walk.forewarned
  | @inside e c d es inner _ walk _ ih =>
    have hopen : (Event.enter e d.offset).Announced d.offset :=
      fun hless => absurd hless (Nat.lt_irrefl d.offset)
    apply (forewarned_append c.offset es (.enter e d.offset :: inner)).mpr
    rw [walk.offsetAfter_eq]
    exact ⟨walk.forewarned, hopen, ih⟩

end Walk

/-- `b` may be told of right after `a`: where a typed leaf fails, its child was
the last to be closed. -/
def Event.Answers (a b : Event) : Prop :=
  ∀ e position child name f, b = .failure e position → e.kind = .convert child name f →
    (∃ start stop, a = .success child start stop) ∨ a = .failure child position

/-- A history in which every failure of a typed leaf answers its child. -/
def Answering (h : List Event) : Prop :=
  h.IsChain Event.Answers

theorem Answering.concat {h : List Event} {ev : Event} (hh : Answering h)
    (hlast : ∀ a ∈ h.getLast?, a.Answers ev) : Answering (h ++ [ev]) := by
  apply List.isChain_append.mpr
  refine ⟨hh, List.isChain_singleton ev, ?_⟩
  intro a ha b hb
  obtain rfl : ev = b := by simpa using hb
  exact hlast a ha

/-- All that is no failure may follow anything. -/
theorem Answering.concat_of_ne {h : List Event} {ev : Event} (hh : Answering h)
    (hev : ∀ e position, ev ≠ .failure e position) : Answering (h ++ [ev]) := by
  apply hh.concat
  intro a _ e position child name f hfailure
  exact absurd hfailure (hev e position)

section Run

variable {en : Engine (List Event)} (hen : en.tracer = .recorder)

include hen

/-- Where a typed leaf comes to nothing, its child was the last to be closed. -/
theorem convert_answers (room : Nat) (e child : Element) (f : String → Option Value)
    (s : State (List Event)) :
    Leads (Engine.convert (en.eval room) e child f) s
      (fun r t => r = none → ∀ a ∈ t.history.getLast?,
        (∃ start stop, a = .success child start stop) ∨ a = .failure child t.scanner.position)
      fun _ _ => True := by
  unfold Engine.convert
  simp only [leads_bind, leads_cursor, leads_modify, leads_get]
  have hlast := Engine.eval_last hen room child { s with quiet := s.quiet + 1 }
  have hfollows := eval_follows (k := contextOf en.rules s) en rfl room child
    { s with quiet := s.quiet + 1 } rfl
  refine (hlast.and hfollows).mono ?_ fun _ _ _ => trivial
  intro r t hchild
  obtain ⟨⟨start, hclosed⟩, hback, -⟩ := hchild
  split
  · exact nofun
  · simp only [leads_bind, leads_reset, leads_skippedCursor]
    apply leads_record
    intro notes
    show none = none → ∀ a ∈ t.history.getLast?, _
    intro _ a ha
    rw [hclosed, Option.mem_some_iff] at ha
    cases r with
    | some out => exact Or.inl ⟨start, _, ha.symm⟩
    | none =>
      -- The child has gone back by itself, to where the leaf goes back too.
      have hposition : t.scanner.position = s.scanner.position :=
        congrArg Cursor.offset (hback rfl)
      right
      calc a
        _ = .failure child t.scanner.position := ha.symm
        _ = .failure child s.scanner.position := by rw [hposition]

/-- Whatever comes to nothing, its failure may be told of next. -/
theorem evalKind_answers (room : Nat) (e : Element) (s : State (List Event)) :
    Leads (en.evalKind (en.eval room) e) s
      (fun r t => r = none → ∀ a ∈ t.history.getLast?,
        a.Answers (.failure e t.scanner.position)) fun _ _ => True := by
  cases hkind : e.kind with
  | convert child name f =>
    have hconvert := convert_answers hen room e child f s
    unfold Engine.evalKind
    rw [hkind]
    refine hconvert.imp ?_
    intro r t hclosed hnone a ha e' position child' name' f' hfailure hkind'
    obtain ⟨rfl, rfl⟩ := Event.failure.inj hfailure
    rw [hkind] at hkind'
    obtain ⟨rfl, -, -⟩ := Kind.convert.inj hkind'
    exact hclosed hnone a ha
  | _ =>
    unfold Leads
    split
    · intro _ a _ e' position child name f hfailure hconvert
      obtain ⟨rfl, -⟩ := Event.failure.inj hfailure
      rw [hkind] at hconvert
      cases hconvert
    · trivial

theorem eval_answering (room : Nat) (e : Element) : Upholds Answering (en.eval room e) := by
  induction room generalizing e with
  | zero =>
    intro s hs
    by_cases hfuel : s.fuel = 0
    · exact leads_error (eval_of_empty en e 0 hfuel) hs
    · exact leads_error (eval_of_full en e hfuel) hs
  | succ room ih =>
    intro s hs
    by_cases hfuel : s.fuel = 0
    · exact leads_error (eval_of_empty en e _ hfuel) hs
    unfold Leads
    rw [eval_of_fuel en e room hfuel]
    change Leads (en.evalKind (en.eval room) e >>= en.close e s.scanner.cursor)
      (s.opened en.tracer e) _ _
    rw [leads_bind, hen]
    have hopened : Answering (s.opened .recorder e).history := by
      rw [history_opened_recorder]
      exact hs.concat_of_ne (by simp)
    have hback : ∀ h start stop, Answering h → Answering (h ++ [.backtrack start stop]) :=
      fun h start stop hh => hh.concat_of_ne (by simp)
    have hinside := Engine.evalKind_upholds ih en hen hback e (s.opened .recorder e) hopened
    have hlast := evalKind_answers hen room e (s.opened .recorder e)
    refine (hinside.and hlast).mono ?_ fun _ _ h => h.1
    intro r t hkind
    obtain ⟨hinside, hlast⟩ := hkind
    have htold : ∀ ev : Event, (ev :: t.trace).reverse = t.history ++ [ev] :=
      fun ev => List.reverse_cons
    cases r with
    | some out =>
      rw [Engine.close, leads_bind, succeed, leads_modify, leads_pure, hen]
      show Answering (Event.success e _ _ :: t.trace).reverse
      rw [htold]
      exact hinside.concat_of_ne (by simp)
    | none =>
      rw [Engine.close, leads_bind, fail, leads_modify, leads_pure, hen]
      show Answering (Event.failure e _ :: t.trace).reverse
      rw [htold]
      exact hinside.concat (hlast rfl)

end Run

/-- Two items in a row have the items before the first and those behind the second
around them. -/
theorem exists_split_of_getElem? {α : Type} {es : List α} {i : Nat} {a b : α}
    (ha : es[i]? = some a) (hb : es[i + 1]? = some b) :
    ∃ before after, es = before ++ a :: b :: after := by
  obtain ⟨hi, hai⟩ := List.getElem?_eq_some_iff.mp ha
  obtain ⟨hj, hbj⟩ := List.getElem?_eq_some_iff.mp hb
  refine ⟨es.take i, es.drop (i + 2), ?_⟩
  calc es
    _ = es.take i ++ es.drop i := (List.take_append_drop i es).symm
    _ = es.take i ++ a :: es.drop (i + 1) := by rw [← hai, List.getElem_cons_drop]
    _ = es.take i ++ a :: b :: es.drop (i + 2) := by rw [← hbj, List.getElem_cons_drop]

/-- `b` tells that a typed leaf fails, and `a` that its child had matched. -/
def Event.Refuses (a b : Event) : Prop :=
  ∃ e child name f start, e.kind = .convert child name f ∧
    a = .success child start a.offset ∧ b = .failure e b.offset

/-- From one event to the next the cursor goes back only if the second one
announces the way back from where the first one left the cursor, or if a typed
leaf refuses what its child has just matched. -/
theorem retreats_are_announced (g : Grammar) (settings : Settings) (text : List Char) (i : Nat)
    (a b : Event) (ha : (g.events settings text)[i]? = some a)
    (hb : (g.events settings text)[i + 1]? = some b) (hback : b.offset < a.offset) :
    b = .backtrack a.offset b.offset ∨ a.Refuses b := by
  obtain ⟨before, after, hsplit⟩ := exists_split_of_getElem? ha hb
  have hstart : (Cursor.start text).offset = 0 := rfl
  have hwarned : Forewarned 0 (before ++ a :: b :: after) := by
    rw [← hsplit, ← hstart]
    rcases g.course settings text with ⟨_, -, -, hcut⟩ | ⟨_, _, hwalk, -⟩
    · exact hcut.forewarned
    · exact hwalk.forewarned
  have hanswering : Answering (before ++ a :: b :: after) := by
    rw [← hsplit]
    apply g.events_uphold settings text List.isChain_nil
    intro e
    exact eval_answering rfl settings.limits.depth e
  have hanswers : a.Answers b := (List.isChain_append_cons_cons.mp hanswering).2.1
  rcases hwarned.announced hback with hannounced | ⟨e, position, hfailure, htyped⟩
  · exact Or.inl hannounced
  · have hposition : b.offset = position := by rw [hfailure]; rfl
    obtain ⟨child, name, f, hkind⟩ : ∃ child name f, e.kind = .convert child name f := by
      unfold Element.isTyped at htyped
      split at htyped
      · exact ⟨_, _, _, ‹_›⟩
      · cases htyped
    rcases hanswers e position child name f hfailure hkind with ⟨start, stop, hsuccess⟩ | hsame
    · have hstop : a.offset = stop := by rw [hsuccess]; rfl
      exact Or.inr ⟨e, child, name, f, start, hkind, hstop ▸ hsuccess, hposition ▸ hfailure⟩
    · -- A child that fails leaves nothing to go back from.
      have hoffset : a.offset = position := by rw [hsame]; rfl
      omega

/-- The first alternative is given up behind its first letter, which is announced.
The second one matches this letter and refuses it. -/
theorem given_up_and_refused :
    let g : Grammar := ⟨.alternation [.sequence [.literal "a", .literal "b"],
      (Element.literal "a").convert Conversion.truth], []⟩
    let es := g.events {} ['a', 'c']
    ∀ i ∈ [5, 10], ∃ a b, es[i]? = some a ∧ es[i + 1]? = some b ∧ b.offset < a.offset ∧
      (b = .backtrack a.offset b.offset ∨ a.Refuses b) := by
  intro g es i hi
  have hoffsets : ∀ i ∈ [5, 10], es[i]?.map Event.offset = some 1 ∧
      es[i + 1]?.map Event.offset = some 0 := by
    decide +kernel
  obtain ⟨hfirst, hsecond⟩ := hoffsets i hi
  obtain ⟨a, ha, haoffset⟩ := Option.map_eq_some_iff.mp hfirst
  obtain ⟨b, hb, hboffset⟩ := Option.map_eq_some_iff.mp hsecond
  have hback : b.offset < a.offset := by omega
  exact ⟨a, b, ha, hb, hback, retreats_are_announced g {} ['a', 'c'] i a b ha hb hback⟩

/-- A typed leaf that refuses a text of three letters goes back without a word. -/
theorem refusal_is_not_announced :
    let g : Grammar := ⟨(Element.literal "yes").convert Conversion.truth, []⟩
    let es := g.events {} ['y', 'e', 's']
    ∃ a b, es[2]? = some a ∧ es[3]? = some b ∧ b.offset < a.offset ∧
      ∀ start stop, b ≠ .backtrack start stop := by
  intro g es
  exact ⟨_, _, rfl, rfl, by decide, by simp⟩

end Peg
