import Mathlib.Data.List.Forall2
import Peg.Proofs.Scan

/-!
Patterns that look only ahead.

The conditions of a pattern look at the characters on both sides of a position, and
nothing else in it looks back. So the program of a pattern without conditions does the
same at two places with the same text ahead: its threads go through the same
instructions, and note the groups at places that belong together.
-/
namespace Peg.Regex

/-- What a pattern matches depends on the text ahead alone, and is never empty. -/
structure Forward (r : Regex) : Prop where
  ahead {c d : Cursor} (h : c.after = d.after) :
    Option.Rel (fun m m' : Match => m.text = m'.text ∧ m.positional = m'.positional)
      (r.matchFrom c) (r.matchFrom d)
  nonempty {c : Cursor} {m : Match} (h : r.matchFrom c = some m) : m.isEmpty = false

/-- Whether a program has no conditions. -/
def LookFree (program : Array Inst) : Bool :=
  program.all fun
    | .look _ => false
    | _ => true

theorem ne_look_of_lookFree {program : Array Inst} (h : LookFree program = true) {pc : Nat}
    {inst : Inst} (hinst : program[pc]? = some inst) (l : Look) : inst ≠ .look l := by
  rintro rfl
  obtain ⟨hpc, hget⟩ := Array.getElem?_eq_some_iff.mp hinst
  have hall := Array.all_eq_true.mp h pc hpc
  rw [hget] at hall
  cases hall

section Threads

variable {R : Cursor → Cursor → Prop}

/-- Stretches of text whose ends `R` relates. -/
def Span (R : Cursor → Cursor → Prop) (g g' : Cursor × Cursor) : Prop :=
  R g.1 g'.1 ∧ R g.2 g'.2

/-- Threads at the same instruction that have noted places which `R` relates. -/
structure Thread.Alongside (R : Cursor → Cursor → Prop) (t u : Thread) : Prop where
  pc : t.pc = u.pc
  opened : List.Forall₂ R t.opened u.opened
  groups : List.Forall₂ (Option.Rel (Span R)) t.groups u.groups

/-- Lists stay related when related items are put in the same place. -/
theorem forall₂_set {α β : Type} {R : α → β → Prop} {as : List α} {bs : List β}
    (h : List.Forall₂ R as bs) {a : α} {b : β} (hab : R a b) (i : Nat) :
    List.Forall₂ R (as.set i a) (bs.set i b) := by
  induction h generalizing i with
  | nil => exact .nil
  | cons hhead htail ih =>
    cases i with
    | zero => exact .cons hab htail
    | succ i => exact .cons hhead (ih i)

namespace Thread.Alongside

variable {t u : Thread}

theorem goTo (h : t.Alongside R u) (pc : Nat) : (t.goTo pc).Alongside R (u.goTo pc) :=
  { h with pc := rfl }

theorem forward (h : t.Alongside R u) :
    (t.goTo (t.pc + 1)).Alongside R (u.goTo (u.pc + 1)) :=
  { h with pc := congrArg (· + 1) h.pc }

theorem leave (h : t.Alongside R u) (index : Nat) {c d : Cursor} (hcd : R c d) :
    (t.leave index c).Alongside R (u.leave index d) := by
  have hopened := h.opened
  unfold Thread.leave
  generalize t.opened = ts at hopened
  generalize u.opened = us at hopened
  cases hopened with
  | nil => exact h.forward
  | @cons first first' _ _ hfirst hrest =>
    have hspan : Span R (first, c) (first', d) := ⟨hfirst, hcd⟩
    exact ⟨congrArg (· + 1) h.pc, hrest, forall₂_set h.groups (.some hspan) (index - 1)⟩

/-- An instruction leads both threads on alike, unless it is a condition. -/
theorem next (h : t.Alongside R u) {inst : Inst} (hlook : ∀ l, inst ≠ .look l) {c d : Cursor}
    (hcd : R c d) :
    List.Forall₂ (Thread.Alongside R) (t.next inst c) (u.next inst d) := by
  cases inst with
  | char s => exact .nil
  | accept => exact .nil
  | look l => exact absurd rfl (hlook l)
  | split first second => exact .cons (h.goTo first) (.cons (h.goTo second) .nil)
  | jump target => exact .cons (h.goTo target) .nil
  | enter =>
    have hentered : (t.enter c).Alongside R (u.enter d) :=
      ⟨congrArg (· + 1) h.pc, .cons hcd h.opened, h.groups⟩
    exact .cons hentered .nil
  | leave index => exact .cons (h.leave index hcd) .nil

theorem pass? (h : t.Alongside R u) (program : Array Inst) (x : Char) :
    Option.Rel (Thread.Alongside R) (t.pass? program x) (u.pass? program x) := by
  unfold Thread.pass?
  rw [h.pc]
  split
  · split
    · exact .some ⟨rfl, h.opened, h.groups⟩
    · exact .none
  · exact .none

end Thread.Alongside

/-- Fronts whose threads go alongside each other. -/
structure Front.Alongside (R : Cursor → Cursor → Prop) (f f' : Front) : Prop where
  waiting : List.Forall₂ (Thread.Alongside R) f.waiting f'.waiting
  accepted : Option.Rel (Thread.Alongside R) f.accepted f'.accepted

variable {program : Array Inst} (hlook : LookFree program = true)

include hlook

/-- The same instructions are followed for both stacks. -/
theorem explore_alongside {c d : Cursor} (hcd : R c d) (fuel : Nat) {stack stack' : List Thread}
    (hstack : List.Forall₂ (Thread.Alongside R) stack stack') (seen : Array Bool)
    {waiting waiting' : List Thread}
    (hwaiting : List.Forall₂ (Thread.Alongside R) waiting waiting') :
    (explore program c fuel stack seen waiting).Alongside R
      (explore program d fuel stack' seen waiting') := by
  have hdone : List.Forall₂ (Thread.Alongside R) waiting.reverse waiting'.reverse :=
    List.rel_reverse hwaiting
  induction fuel generalizing stack stack' seen waiting waiting' with
  | zero => exact ⟨hdone, .none⟩
  | succ fuel ih =>
    cases hstack with
    | nil => exact ⟨hdone, .none⟩
    | @cons t u _ _ htu hrest =>
      rw [explore, explore, htu.pc]
      split
      · exact ih hrest seen hwaiting hdone
      · dsimp only
        split
        · exact ih hrest _ hwaiting hdone
        · exact ⟨hdone, .some htu⟩
        · have hmore := List.Forall₂.cons htu hwaiting
          exact ih hrest _ hmore (List.rel_reverse hmore)
        · next inst _ _ hinst =>
          have hnext := htu.next (ne_look_of_lookFree hlook hinst) hcd
          exact ih (List.rel_append hnext hrest) _ hwaiting hdone

theorem front_alongside {c d : Cursor} (hcd : R c d) {threads threads' : List Thread}
    (h : List.Forall₂ (Thread.Alongside R) threads threads') :
    (front program c threads).Alongside R (front program d threads') := by
  unfold front
  rw [h.length_eq]
  exact explore_alongside hlook hcd _ h _ .nil

/-- Matches that end at places which `R` relates, with threads alongside each other. -/
def Found (R : Cursor → Cursor → Prop) (p q : Cursor × Thread) : Prop :=
  R p.1 q.1 ∧ p.2.Alongside R q.2

omit hlook in
theorem Front.Alongside.better {f f' : Front} (h : f.Alongside R f') {c d : Cursor} (hcd : R c d)
    {best best' : Option (Cursor × Thread)} (hbest : Option.Rel (Found R) best best') :
    Option.Rel (Found R) (f.better c best) (f'.better d best') := by
  have haccepted := h.accepted
  unfold Front.better
  generalize f.accepted = accepted at haccepted
  generalize f'.accepted = accepted' at haccepted
  cases haccepted with
  | none => exact hbest
  | some hthread => exact .some ⟨hcd, hthread⟩

/-- If `R` is kept by every step over a character, it is kept by the whole run. -/
theorem runThreads_alongside
    (hstep : ∀ (c d : Cursor) (x : Char) (rest : List Char), R c d →
      R (c.step x rest) (d.step x rest))
    (text : List Char) {c d : Cursor} (hcd : R c d) {threads threads' : List Thread}
    (hthreads : List.Forall₂ (Thread.Alongside R) threads threads')
    {best best' : Option (Cursor × Thread)} (hbest : Option.Rel (Found R) best best') :
    Option.Rel (Found R) (runThreads program c threads best text)
      (runThreads program d threads' best' text) := by
  induction text generalizing c d threads threads' best best' with
  | nil => exact (front_alongside hlook hcd hthreads).better hcd hbest
  | cons x rest ih =>
    have hfront := front_alongside hlook hcd hthreads
    have hbetter := hfront.better hcd hbest
    have hpassed : List.Forall₂ (Thread.Alongside R)
        ((front program c threads).waiting.filterMap (Thread.pass? program x))
        ((front program d threads').waiting.filterMap (Thread.pass? program x)) :=
      List.rel_filterMap (fun _ _ htu => htu.pass? program x) hfront.waiting
    rw [runThreads, runThreads]
    generalize (front program c threads).waiting.filterMap _ = passed at hpassed
    generalize (front program d threads').waiting.filterMap _ = passed' at hpassed
    -- A thread of one run passes the character if its companion does.
    cases hpassed with
    | nil => exact hbetter
    | cons hhead htail => exact ih (hstep c d x rest hcd) (.cons hhead htail) hbetter

omit hlook in
/-- The thread that sets out has noted nothing. -/
theorem initial_alongside (R : Cursor → Cursor → Prop) (groups : Nat) :
    Thread.Alongside R ⟨0, [], List.replicate groups none⟩ ⟨0, [], List.replicate groups none⟩ :=
  have hgroups : List.Forall₂ (Option.Rel (Span R)) (List.replicate groups none)
      (List.replicate groups none) :=
    List.forall₂_same.mpr fun _ hg => List.eq_of_mem_replicate hg ▸ .none
  ⟨rfl, .nil, hgroups⟩

theorem search_alongside
    (hstep : ∀ (c d : Cursor) (x : Char) (rest : List Char), R c d →
      R (c.step x rest) (d.step x rest))
    (groups : Nat) {c d : Cursor} (hcd : R c d) (hahead : c.after = d.after) :
    Option.Rel (Found R) (search program groups c) (search program groups d) := by
  unfold search
  rw [hahead]
  exact runThreads_alongside hlook hstep d.after hcd (.cons (initial_alongside R groups) .nil)
    .none

end Threads

section Level

variable {c d : Cursor}

/-- Cursors with the same text ahead, as far from `c` as from `d`. -/
structure Level (c d a b : Cursor) : Prop where
  ahead : a.after = b.after
  offset : a.offset + d.offset = b.offset + c.offset

theorem Level.step {a b : Cursor} (h : Level c d a b) (x : Char) (rest : List Char) :
    Level c d (a.step x rest) (b.step x rest) where
  ahead := rfl
  offset := by
    have hoffset := h.offset
    change a.offset + x.utf8Size + d.offset = b.offset + x.utf8Size + c.offset
    omega

/-- The text between such cursors is the same. -/
theorem Level.upTo_eq {a b a' b' : Cursor} (h : Level c d a b) (h' : Level c d a' b') :
    a.upTo a' = b.upTo b' := by
  have hlength : a'.offset - a.offset = b'.offset - b.offset := by
    have hoffset := h.offset
    have hoffset' := h'.offset
    omega
  unfold Cursor.upTo
  rw [hlength, h.ahead]

/-- The groups of a match have the same texts. -/
theorem Level.positional_eq {gs gs' : List (Option (Cursor × Cursor))}
    (h : List.Forall₂ (Option.Rel (Span (Level c d))) gs gs') :
    gs.map (fun g => g.map fun (a, b) => String.ofList (a.upTo b)) =
      gs'.map (fun g => g.map fun (a, b) => String.ofList (a.upTo b)) := by
  induction h with
  | nil => rfl
  | cons hgroup _ ih =>
    rw [List.map_cons, List.map_cons, ih]
    cases hgroup with
    | none => rfl
    | some hspan => simp only [Option.map_some, hspan.1.upTo_eq hspan.2]

end Level

/-- A match that begins with a step over a character stops behind that character. -/
theorem lt_offset_of_runThreads {program : Array Inst} {c stop : Cursor} {threads : List Thread}
    {ahead : List Char} {t : Thread} (hnone : (front program c threads).accepted = none)
    (h : runThreads program c threads none ahead = some (stop, t)) : c.offset < stop.offset := by
  have hbetter : (front program c threads).better c none = none := by
    unfold Front.better
    rw [hnone]
    rfl
  cases ahead with
  | nil =>
    rw [runThreads, hbetter] at h
    cases h
  | cons x rest =>
    rw [runThreads] at h
    split at h
    · rw [hbetter] at h
      cases h
    · rw [hbetter] at h
      have hstep : (c.step x rest).Ahead stop :=
        (ahead_lasting program _).runThreads rfl (fun _ _ => Cursor.Ahead.refl _) (by simp) h
      have hx := x.utf8Size_pos
      have hle : c.offset + x.utf8Size ≤ stop.offset := hstep.offset_le
      omega

/-- A pattern without conditions that does not match the empty text looks only ahead. -/
theorem forward_of_lookFree {r : Regex} (hlook : LookFree r.program = true)
    (hempty : r.matchFrom (Cursor.start []) = none) : r.Forward where
  ahead := by
    intro c d h
    have hfound := search_alongside hlook (R := Level c d)
      (fun a b x rest hab => hab.step x rest) r.names.length ⟨h, Nat.add_comm _ _⟩ h
    unfold matchFrom
    generalize search r.program r.names.length c = found at hfound
    generalize search r.program r.names.length d = found' at hfound
    cases hfound with
    | none => exact .none
    | some hmatch =>
      obtain ⟨hstop, hthread⟩ := hmatch
      have hstart : Level c d c d := ⟨h, Nat.add_comm _ _⟩
      refine .some ⟨?_, ?_⟩
      · exact congrArg String.ofList (hstart.upTo_eq hstop)
      · exact Level.positional_eq hthread.groups
  nonempty := by
    intro c m h
    let threads : List Thread := [⟨0, [], List.replicate r.names.length none⟩]
    -- What is accepted before the first character does not depend on the place.
    have hfront := front_alongside hlook (R := fun _ _ => True) (c := c) (d := Cursor.start [])
      trivial (.cons (initial_alongside _ r.names.length) .nil)
    have hstart : (front r.program (Cursor.start []) threads).accepted = none := by
      have hsearch : (front r.program (Cursor.start []) threads).better (Cursor.start []) none =
          none := Option.map_eq_none_iff.mp hempty
      unfold Front.better at hsearch
      simpa using hsearch
    have hnone : (front r.program c threads).accepted = none := by
      have haccepted := hfront.accepted
      rw [hstart] at haccepted
      generalize (front r.program c threads).accepted = accepted at haccepted
      cases haccepted
      rfl
    obtain ⟨⟨stop, t⟩, hfound, rfl⟩ := Option.map_eq_some_iff.mp h
    have hlt : c.offset < stop.offset := lt_offset_of_runThreads hnone hfound
    exact beq_eq_false_iff_ne.mpr (Nat.ne_of_lt hlt)

end Peg.Regex
