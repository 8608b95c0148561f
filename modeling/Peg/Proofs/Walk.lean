import Peg.Proofs.Passage
import Peg.Proofs.Position

/-!
What a run shows of itself.

A walk leads from one cursor to another by whole evaluations and by steps back,
and every one of them is told by events. A walk also has the notes that it
leaves: what was expected where a leaf failed. A run that ends in an error is a
walk that is broken off with some evaluations still open.
-/
namespace Peg

/-- A note that something was expected at a place. -/
structure Note where
  cursor : Cursor
  label : String

/-- Takes a note into account. -/
def Furthest.note (f : Furthest) (n : Note) : Furthest :=
  f.record n.cursor fun _ => n.label

namespace Element

/-- Whether the element is matched by the scanner, without other elements. -/
def isLeaf (e : Element) : Bool :=
  match e.kind with
  | .literal _ | .pattern _ _ | .endOfInput => true
  | _ => false

/-- Whether the element is a typed leaf. -/
def isTyped (e : Element) : Bool :=
  match e.kind with
  | .convert _ _ _ => true
  | _ => false

end Element

namespace BigStep

/-- Where a match from `c` to `d` starts: behind the skipped characters, unless
it ends before them. -/
def Context.tokenStart (k : Context) (c d : Cursor) : Nat :=
  if (k.skipped c).offset ≤ d.offset then (k.skipped c).offset else c.offset

/-- The notes that an evaluation of `e` at `c` leaves, where `inner` are those
of the elements in it. A leaf speaks for itself, and only if it fails. -/
def Context.notes (k : Context) (e : Element) (c : Cursor) (matched : Bool)
    (inner : List Note) : List Note :=
  if e.isLeaf || e.isTyped then if matched then [] else [⟨k.skipped c, e.label⟩]
  else inner

/-- A walk from one cursor to another, with its events and its notes. -/
inductive Walk (k : Context) : Cursor → Cursor → List Event → List Note → Prop
  | stay (c : Cursor) : Walk k c c [] []
  | back {b c d : Cursor} {es : List Event} {ns : List Note} (ahead : b.Ahead c)
      (moves : b.offset < c.offset) (rest : Walk k b d es ns) :
      Walk k c d (.backtrack c.offset b.offset :: es) ns
  /-- An element matches from `c` to `m`. Only a leaf moves the cursor itself. -/
  | hit {e : Element} {c l m d : Cursor} {inner es : List Event} {notes ns : List Note}
      (inside : Walk k c l inner notes) (leaf : e.isLeaf = true → inner = [])
      (node : e.isLeaf = false → l = m) (advances : Advances k c m)
      (rest : Walk k m d es ns) :
      Walk k c d (.enter e c.offset :: (inner ++ .success e (k.tokenStart c m) m.offset :: es))
        (k.notes e c true notes ++ ns)
  /-- An element fails at `c`. Only a typed leaf goes back without a word. -/
  | miss {e : Element} {c l d : Cursor} {inner es : List Event} {notes ns : List Note}
      (inside : Walk k c l inner notes) (leaf : e.isLeaf = true → inner = [])
      (node : e.isTyped = false → l = c) (rest : Walk k c d es ns) :
      Walk k c d (.enter e c.offset :: (inner ++ .failure e c.offset :: es))
        (k.notes e c false notes ++ ns)

/-- The events of a walk that is broken off, with any number of evaluations
open at its end. -/
inductive Cut (k : Context) : Cursor → List Event → Prop
  | here {c d : Cursor} {es : List Event} {ns : List Note} (walk : Walk k c d es ns) :
      Cut k c es
  | inside {e : Element} {c d : Cursor} {es inner : List Event} {ns : List Note}
      (walk : Walk k c d es ns) (cut : Cut k d inner) :
      Cut k c (es ++ .enter e d.offset :: inner)

variable {k : Context}

namespace Walk

variable {b c d : Cursor} {es es' : List Event} {ns ns' : List Note}

theorem trans (h : Walk k b c es ns) (h' : Walk k c d es' ns') :
    Walk k b d (es ++ es') (ns ++ ns') := by
  induction h with
  | stay c => exact h'
  | back ahead moves _ ih => exact back ahead moves (ih h')
  | hit inside leaf node advances _ _ ih =>
    simp only [List.cons_append, List.append_assoc]
    exact hit inside leaf node advances (ih h')
  | miss inside leaf node _ _ ih =>
    simp only [List.cons_append, List.append_assoc]
    exact miss inside leaf node (ih h')

theorem text_eq (h : Walk k c d es ns) : d.text = c.text := by
  induction h with
  | stay c => rfl
  | back ahead _ _ ih => rw [ih, ahead.text_eq]
  | hit _ _ _ advances _ _ ih => rw [ih, advances.ahead.text_eq]
  | miss _ _ _ _ _ ih => exact ih

/-- One evaluation that matches, by itself. -/
theorem of_hit {e : Element} {l : Cursor} (inside : Walk k c l es ns)
    (leaf : e.isLeaf = true → es = []) (node : e.isLeaf = false → l = d)
    (advances : Advances k c d) :
    Walk k c d (.enter e c.offset :: (es ++ [.success e (k.tokenStart c d) d.offset]))
      (k.notes e c true ns) := by
  have hwalk := hit inside leaf node advances (stay d)
  rwa [List.append_nil] at hwalk

/-- One evaluation that fails, by itself. -/
theorem of_miss {e : Element} {l : Cursor} (inside : Walk k c l es ns)
    (leaf : e.isLeaf = true → es = []) (node : e.isTyped = false → l = c) :
    Walk k c c (.enter e c.offset :: (es ++ [.failure e c.offset])) (k.notes e c false ns) := by
  have hwalk := miss inside leaf node (stay c)
  rwa [List.append_nil] at hwalk

/-- A walk goes on until it is broken off. -/
theorem cut (h : Walk k c d es ns) (h' : Cut k d es') : Cut k c (es ++ es') := by
  cases h' with
  | here walk => exact Cut.here (h.trans walk)
  | inside walk cut =>
    rw [← List.append_assoc]
    exact Cut.inside (h.trans walk) cut

end Walk

end BigStep

end Peg
