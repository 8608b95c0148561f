import Mathlib.Data.List.Induction
import Peg.Proofs.Course

/-!
What a run without a match says can be told from its events.

The events of a run tell which leaves failed and where. Those that have no
typed leaf open around them are what the run has to complain about, and it
keeps the furthest of them, each label once.
-/
namespace Peg

open BigStep

namespace Event

/-- How many typed leaves are open after the event, if `n` were open before. -/
def typedLevel (n : Nat) : Event → Nat
  | enter e _ => if e.isTyped then n + 1 else n
  | success e _ _ | failure e _ => if e.isTyped then n - 1 else n
  | backtrack _ _ => n

/-- What the failure of a leaf says was expected, and where. -/
def complaint? (skip : Option CharSet) (text : List Char) : Event → Option (Nat × String)
  | failure e position =>
    if e.isLeaf || e.isTyped then some (skippedAt skip text position, e.label) else none
  | _ => none

/-- The complaints in a history, but not those in a typed leaf, of which `n` are
open before it. -/
def complaintsFrom (skip : Option CharSet) (text : List Char) (n : Nat) :
    List Event → List (Nat × String)
  | [] => []
  | ev :: es =>
    (if ev.typedLevel n = 0 then (ev.complaint? skip text).toList else []) ++
      complaintsFrom skip text (ev.typedLevel n) es

end Event

/-- What a run without a match complains about, told from its events: the leaves
that failed, in order, and then the end of the input if the root matched. -/
def complaints (skip : Option CharSet) (text : List Char) (es : List Event) :
    List (Nat × String) :=
  Event.complaintsFrom skip text 0 es ++
    match es.getLast? with
    | some (.success _ _ stop) => [(skippedAt skip text stop, "end of input")]
    | _ => []

/-- A note as it is told. -/
def Note.told (n : Note) : Nat × String :=
  (n.cursor.offset, n.label)

theorem Element.isTyped_of_isLeaf {e : Element} (h : e.isLeaf = true) : e.isTyped = false := by
  unfold isLeaf at h
  unfold isTyped
  split at h
  · simp [*]
  · simp [*]
  · simp [*]
  · cases h

section Walk

open Event

variable {g : Grammar} {settings : Settings} {c d l m : Cursor} {es inner tail : List Event}
  {notes ns : List Note} {e : Element} {n : Nat}

/-- The complaints in an evaluation: those of its parts if it is composite, and
otherwise its own, which it has at its end if it fails. -/
theorem complaintsFrom_node (matched : Bool) {close : Event}
    (level : ∀ n, close.typedLevel n = if e.isTyped then n - 1 else n)
    (told : close.complaint? settings.skip c.text =
      if matched = false ∧ (e.isLeaf || e.isTyped) then
        some (skippedAt settings.skip c.text c.offset, e.label)
      else none)
    (leaf : e.isLeaf = true → inner = [])
    (inside : ∀ n tail, complaintsFrom settings.skip c.text n (inner ++ tail) =
      (if n = 0 then notes.map Note.told else []) ++ complaintsFrom settings.skip c.text n tail) :
    complaintsFrom settings.skip c.text n (.enter e c.offset :: (inner ++ close :: tail)) =
      (if n = 0 then ((g.context settings).notes e c matched notes).map Note.told else []) ++
        complaintsFrom settings.skip c.text n tail := by
  have hplace := g.skippedAt_offset settings c
  have henter : (Event.enter e c.offset).complaint? settings.skip c.text = none := rfl
  rw [complaintsFrom, henter, typedLevel]
  rw [hplace] at told
  unfold Context.notes
  by_cases hleaf : e.isLeaf = true
  · have htyped := Element.isTyped_of_isLeaf hleaf
    rw [leaf hleaf, List.nil_append, complaintsFrom, level, told]
    cases matched with
    | true => simp [hleaf, htyped]
    | false => simp [hleaf, htyped, Note.told]
  · rw [inside, complaintsFrom, level, told]
    by_cases htyped : e.isTyped = true
    · -- Inside the typed leaf nothing counts, and behind it the level is as before.
      cases matched with
      | true => simp [htyped]
      | false => simp [htyped, Note.told]
    · simp [hleaf, htyped]

/-- The complaints on a walk are its notes, unless it is in a typed leaf. -/
theorem BigStep.Walk.complaintsFrom_eq (h : Walk (g.context settings) c d es ns) (n : Nat)
    (tail : List Event) :
    complaintsFrom settings.skip c.text n (es ++ tail) =
      (if n = 0 then ns.map Note.told else []) ++ complaintsFrom settings.skip c.text n tail := by
  induction h generalizing n tail with
  | stay c => simp
  | back ahead _ _ ih =>
    have hnone : ∀ text start stop,
        complaint? settings.skip text (.backtrack start stop) = none := fun _ _ _ => rfl
    rw [ahead.text_eq, List.cons_append, complaintsFrom, hnone, Option.toList_none, ite_self]
    exact ih n tail
  | hit _ leaf _ advances _ inside ih =>
    rw [List.cons_append, List.append_assoc, List.cons_append,
      complaintsFrom_node (g := g) true (fun _ => rfl) (by simp [complaint?]) leaf inside]
    rw [advances.ahead.text_eq] at ih
    rw [ih]
    split
    · simp
    · simp
  | miss _ leaf _ _ inside ih =>
    rw [List.cons_append, List.append_assoc, List.cons_append,
      complaintsFrom_node (g := g) false (fun _ => rfl) (by simp [complaint?]) leaf inside, ih]
    split
    · simp
    · simp

/-- Every note of a walk is about its text. -/
theorem BigStep.Walk.notes_text (h : Walk (g.context settings) c d es ns) :
    ∀ n ∈ ns, n.cursor.text = c.text := by
  have hnode : ∀ {e : Element} {c : Cursor} {matched : Bool} {notes : List Note},
      (∀ n ∈ notes, n.cursor.text = c.text) →
        ∀ n ∈ (g.context settings).notes e c matched notes, n.cursor.text = c.text := by
    intro e c matched notes hnotes n hn
    unfold Context.notes at hn
    split at hn
    · split at hn
      · cases hn
      · rw [List.mem_singleton.mp hn]
        exact ((g.context settings).ahead_skipped c).text_eq
    · exact hnotes n hn
  induction h with
  | stay c => simp
  | back ahead _ _ ih => exact ahead.text_eq ▸ ih
  | hit _ _ _ advances _ inside ih =>
    intro n hn
    rcases List.mem_append.mp hn with hn | hn
    · exact hnode inside n hn
    · exact (ih n hn).trans advances.ahead.text_eq
  | miss _ _ _ _ inside ih =>
    intro n hn
    rcases List.mem_append.mp hn with hn | hn
    · exact hnode inside n hn
    · exact ih n hn

end Walk

/-- A label at the end of a list counts only if it is new. -/
theorem eraseDups_concat (labels : List String) (label : String) :
    (labels ++ [label]).eraseDups =
      if labels.eraseDups.contains label then labels.eraseDups
      else labels.eraseDups ++ [label] := by
  rw [List.eraseDups_append]
  by_cases hlabel : label ∈ labels
  · have hremoved : [label].removeAll labels = [] := by simp [List.removeAll, hlabel]
    rw [hremoved, if_pos (by simpa using hlabel)]
    simp
  · have hremoved : [label].removeAll labels = [label] := by simp [List.removeAll, hlabel]
    rw [hremoved, if_neg (by simpa using hlabel)]
    simp [List.eraseDups_cons]

/-- The labels of the complaints about a place. -/
def labelsAt (position : Nat) (cs : List (Nat × String)) : List String :=
  ((cs.filter (·.1 = position)).map Prod.snd).eraseDups

theorem labelsAt_concat_of_ne {position : Nat} {cs : List (Nat × String)} {x : Nat × String}
    (h : x.1 ≠ position) : labelsAt position (cs ++ [x]) = labelsAt position cs := by
  simp [labelsAt, h]

theorem labelsAt_concat_of_eq {position : Nat} {cs : List (Nat × String)} {x : Nat × String}
    (h : x.1 = position) :
    labelsAt position (cs ++ [x]) =
      if (labelsAt position cs).contains x.2 then labelsAt position cs
      else labelsAt position cs ++ [x.2] := by
  have hx : (cs ++ [x]).filter (·.1 = position) = cs.filter (·.1 = position) ++ [x] := by
    simp [h]
  unfold labelsAt
  rw [hx, List.map_append, List.map_singleton, eraseDups_concat]

theorem labelsAt_of_lt {position : Nat} {cs : List (Nat × String)}
    (h : ∀ x ∈ cs, x.1 < position) : labelsAt position cs = [] := by
  have hnone : cs.filter (·.1 = position) = [] := by
    rw [List.filter_eq_nil_iff]
    intro x hx
    simpa using Nat.ne_of_lt (h x hx)
  simp [labelsAt, hnone]

/-- What is told are the furthest of some complaints. -/
structure Furthest.Tells (f : Furthest) (text : List Char) (cs : List (Nat × String)) : Prop where
  text_eq : f.cursor.text = text
  le : ∀ x ∈ cs, x.1 ≤ f.cursor.offset
  offset : f.cursor.offset = (cs.map Prod.fst).foldl max 0
  expected : f.expected = labelsAt f.cursor.offset cs

/-- One more complaint is taken into account. -/
theorem Furthest.Tells.note {f : Furthest} {text : List Char} {cs : List (Nat × String)}
    (h : f.Tells text cs) {n : Note} (hn : n.cursor.text = text) :
    (f.note n).Tells text (cs ++ [n.told]) := by
  have hmax : ((cs ++ [n.told]).map Prod.fst).foldl max 0 =
      max f.cursor.offset n.cursor.offset := by
    rw [List.map_append, List.foldl_append, ← h.offset]
    rfl
  have hle : ∀ k, f.cursor.offset ≤ k → n.cursor.offset ≤ k → ∀ x ∈ cs ++ [n.told], x.1 ≤ k := by
    intro k hf hk x hx
    rcases List.mem_append.mp hx with hx | hx
    · exact Nat.le_trans (h.le x hx) hf
    · rw [List.mem_singleton.mp hx]
      exact hk
  unfold Furthest.note Furthest.record
  by_cases hbefore : n.cursor.offset < f.cursor.offset
  · -- The complaint is about an earlier place.
    rw [if_pos hbefore]
    have hexpected : labelsAt f.cursor.offset (cs ++ [n.told]) = labelsAt f.cursor.offset cs :=
      labelsAt_concat_of_ne (Nat.ne_of_lt hbefore)
    exact ⟨h.text_eq, hle _ (Nat.le_refl _) (Nat.le_of_lt hbefore), by omega,
      h.expected.trans hexpected.symm⟩
  rw [if_neg hbefore]
  dsimp only
  by_cases hbehind : f.cursor.offset < n.cursor.offset
  · -- The complaint is about a later place, where it is the first.
    rw [if_pos hbehind]
    have hnone : labelsAt n.cursor.offset cs = [] := by
      apply labelsAt_of_lt
      intro x hx
      exact Nat.lt_of_le_of_lt (h.le x hx) hbehind
    refine ⟨hn, hle _ (Nat.le_of_lt hbehind) (Nat.le_refl _), ?_, ?_⟩
    · change n.cursor.offset = _
      omega
    · have hfirst : labelsAt n.cursor.offset (cs ++ [n.told]) = _ := labelsAt_concat_of_eq rfl
      rw [hnone] at hfirst
      exact hfirst.symm
  · -- The complaint is about the same place.
    have hsame : n.told.1 = f.cursor.offset := by
      change n.cursor.offset = _
      omega
    have hlabels : labelsAt f.cursor.offset (cs ++ [n.told]) = _ := labelsAt_concat_of_eq hsame
    rw [← h.expected] at hlabels
    have hle' := hle f.cursor.offset (Nat.le_refl _) (Nat.le_of_eq hsame)
    rw [if_neg hbehind]
    split
    · refine ⟨h.text_eq, hle', by omega, ?_⟩
      rw [hlabels, if_pos ‹_›]
    · refine ⟨h.text_eq, hle', by dsimp only; omega, ?_⟩
      rw [hlabels, if_neg ‹_›]
      rfl

theorem Furthest.ofNotes_tells {text : List Char} {ns : List Note}
    (h : ∀ n ∈ ns, n.cursor.text = text) :
    (Furthest.ofNotes text ns).Tells text (ns.map Note.told) := by
  -- The last note is the last to be taken into account.
  induction ns using List.reverseRecOn with
  | nil => exact ⟨rfl, by simp, rfl, rfl⟩
  | append_singleton ns n ih =>
    have hns := ih fun m hm => h m (List.mem_append_left _ hm)
    have hn := h n (List.mem_append_right _ (List.mem_singleton_self n))
    unfold Furthest.ofNotes at hns ⊢
    rw [List.foldl_append, List.map_append]
    exact hns.note hn

/-- A run without a match complains about the notes of its walk. -/
theorem complaints_tell {g : Grammar} {settings : Settings} {text : List Char}
    {e : ParseError} (h : g.evaluatePrefix settings text = .error e) (hno : e.isNoMatch = true) :
    ∃ f : Furthest, f.Tells text (complaints settings.skip text (g.events settings text)) ∧
      e = f.error := by
  rcases g.course settings text with ⟨e', herror, hfatal, -⟩ | ⟨d, ns, hwalk, hends⟩
  · obtain rfl : e = e' := by simpa [h] using herror
    simp [hno] at hfatal
  have hstart : (Cursor.start text).text = text := rfl
  have htext : d.text = text := hwalk.text_eq
  have hns : ∀ n ∈ ns, n.cursor.text = text := hwalk.notes_text
  have hevents : Event.complaintsFrom settings.skip text 0 (g.events settings text) =
      ns.map Note.told := by
    simpa [Event.complaintsFrom, hstart] using hwalk.complaintsFrom_eq 0 []
  unfold complaints
  rw [hevents]
  cases hends with
  | unmatched position hlast result =>
    obtain rfl : e = (Furthest.ofNotes text ns).error := by simpa [h] using result
    rw [hlast]
    dsimp only
    rw [List.append_nil]
    exact ⟨_, Furthest.ofNotes_tells hns, rfl⟩
  | matched value result => simp [h] at result
  | unfinished start hlast result =>
    let last : Note := ⟨(g.context settings).skipped d, "end of input"⟩
    obtain rfl : e = (Furthest.ofNotes text (ns ++ [last])).error := by simpa [h] using result
    have hlastText : last.cursor.text = text :=
      ((g.context settings).ahead_skipped d).text_eq.trans htext
    have htold : last.told = (skippedAt settings.skip text d.offset, "end of input") := by
      rw [← htext, g.skippedAt_offset settings d]
      rfl
    rw [hlast]
    dsimp only
    rw [← htold, ← List.map_singleton, ← List.map_append]
    refine ⟨_, Furthest.ofNotes_tells ?_, rfl⟩
    intro n hn
    rcases List.mem_append.mp hn with hn | hn
    · exact hns n hn
    · rw [List.mem_singleton.mp hn]
      exact hlastText

/-- A run without a match tells the furthest offset that it has a complaint
about, 0 if there is none, with its line and column, and the labels of the
complaints there in order, each of them once. -/
theorem noMatch_tells_furthest (g : Grammar) (settings : Settings) (text : List Char)
    (position line column : Nat) (expected : List String)
    (h : g.evaluatePrefix settings text = .error (.noMatch position line column expected)) :
    let cs := complaints settings.skip text (g.events settings text)
    position = (cs.map Prod.fst).foldl max 0 ∧ expected = labelsAt position cs ∧
      Boundary text position ∧ position ≤ byteLength text ∧
      (Scanner.ofText text settings.skip).lineColumn? position = some (line, column) := by
  obtain ⟨f, htells, herror⟩ := complaints_tell h rfl
  obtain ⟨rfl, rfl, rfl, rfl⟩ : position = f.cursor.offset ∧ line = f.cursor.line ∧
    column = f.cursor.column ∧ expected = f.expected := by simpa [Furthest.error] using herror
  have hboundary := f.cursor.boundary
  have hle := f.cursor.offset_le_byteLength
  have hfound := f.cursor.ofOffset?_offset
  rw [htells.text_eq] at hboundary hle hfound
  refine ⟨htells.offset, htells.expected, hboundary, hle, ?_⟩
  have hsource : (Scanner.ofText text settings.skip).source = text := rfl
  unfold Scanner.lineColumn?
  rw [hsource, Nat.min_eq_left hle, hfound]
  rfl

/-- Of a typed leaf it is only told that the leaf was expected, and of what fails
before the furthest place nothing at all. -/
theorem choice_tells_furthest :
    let digit : Element := (Element.sequence [.literal "1", .literal "2"]).convert fun _ => none
    let g : Grammar :=
      ⟨.alternation [.literal "b", .sequence [.literal "a", digit],
        .sequence [.literal "a", .literal "c"]], []⟩
    let text := [' ', 'a', ' ', '1', 'd']
    let cs := complaints (some CharSet.blanks) text (g.events {} text)
    cs = [(1, "\"b\""), (3, "convert((\"1\" + \"2\"))"), (3, "\"c\"")] ∧
      ["convert((\"1\" + \"2\"))", "\"c\""] = labelsAt 3 cs ∧
      (Scanner.ofText text (some CharSet.blanks)).lineColumn? 3 = some (1, 4) := by
  intro digit g text cs
  have hrun : (g.evaluatePrefix {} text).map (fun _ => ()) =
      .error (.noMatch 3 1 4 ["convert((\"1\" + \"2\"))", "\"c\""]) := by
    decide +kernel
  have hcomplaints : cs =
      [(1, "\"b\""), (3, "convert((\"1\" + \"2\"))"), (3, "\"c\"")] := by
    decide +kernel
  cases hresult : g.evaluatePrefix {} text with
  | ok r =>
    rw [hresult] at hrun
    cases hrun
  | error e =>
    rw [hresult] at hrun
    cases hrun
    have htells := noMatch_tells_furthest g {} text 3 1 4 _ hresult
    exact ⟨hcomplaints, htells.2.1, htells.2.2.2.2⟩

end Peg
