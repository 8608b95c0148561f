import Peg.Regex.Search

/-!
What threads carry along.

A machine takes only two steps: a thread follows an instruction, or it passes the next
character. A fact about threads and the places they have come to that both steps keep
holds of all threads of a run, and so of the one that ends in a match.
-/
namespace Peg.Regex

/-- The steps of a program keep a fact about threads and the places they have come to. -/
structure Lasting (program : Array Inst) (P : Cursor → Thread → Prop) : Prop where
  follow {c : Cursor} {t u : Thread} {inst : Inst} (h : P c t)
    (inst_eq : program[t.pc]? = some inst) (next : u ∈ t.next inst c) : P c u
  pass {c : Cursor} {t u : Thread} {x : Char} {rest : List Char} (h : P c t)
    (ahead : c.after = x :: rest) (passes : t.pass? program x = some u) : P (c.step x rest) u

/-- A fact holds of all threads of a front. -/
structure Front.All (P : Thread → Prop) (f : Front) : Prop where
  waiting : ∀ t ∈ f.waiting, P t
  accepted : ∀ t, f.accepted = some t → P t

namespace Lasting

variable {program : Array Inst} {P : Cursor → Thread → Prop} (h : Lasting program P) {c : Cursor}

include h

theorem explore (fuel : Nat) (stack : List Thread) (seen : Array Bool) (waiting : List Thread)
    (hstack : ∀ t ∈ stack, P c t) (hwaiting : ∀ t ∈ waiting, P c t) :
    (explore program c fuel stack seen waiting).All (P c) := by
  have hdone : ∀ t ∈ waiting.reverse, P c t := fun t ht => hwaiting t (List.mem_reverse.mp ht)
  induction fuel generalizing stack seen waiting with
  | zero => exact ⟨hdone, nofun⟩
  | succ fuel ih =>
    cases stack with
    | nil => exact ⟨hdone, nofun⟩
    | cons t stack =>
      have ht : P c t := hstack t List.mem_cons_self
      have hrest : ∀ u ∈ stack, P c u := fun u hu => hstack u (List.mem_cons_of_mem t hu)
      rw [Regex.explore]
      split
      · -- A thread has been here before.
        exact ih stack seen waiting hrest hwaiting hdone
      · dsimp only
        split
        · -- Beyond the program a thread ends.
          exact ih stack _ waiting hrest hwaiting hdone
        · -- The thread accepts, and those behind it are cut off.
          refine ⟨hdone, ?_⟩
          rintro _ ⟨rfl⟩
          exact ht
        · -- The thread waits for the next character.
          have hmore : ∀ u ∈ t :: waiting, P c u := List.forall_mem_cons.mpr ⟨ht, hwaiting⟩
          exact ih stack _ _ hrest hmore fun u hu => hmore u (List.mem_reverse.mp hu)
        · -- It follows an instruction, perhaps as several threads.
          next inst _ _ hinst =>
          refine ih _ _ waiting ?_ hwaiting hdone
          intro u hu
          rcases List.mem_append.mp hu with hu | hu
          · exact h.follow ht hinst hu
          · exact hrest u hu

theorem front (threads : List Thread) (hthreads : ∀ t ∈ threads, P c t) :
    (front program c threads).All (P c) :=
  h.explore _ threads _ [] hthreads nofun

theorem better {best : Option (Cursor × Thread)} {threads : List Thread}
    (hthreads : ∀ t ∈ threads, P c t) (hbest : ∀ d u, best = some (d, u) → P d u) (d : Cursor)
    (u : Thread) (hu : (Regex.front program c threads).better c best = some (d, u)) : P d u := by
  unfold Front.better at hu
  cases haccepted : (Regex.front program c threads).accepted with
  | none => exact hbest d u (by simpa [haccepted] using hu)
  | some t =>
    obtain ⟨rfl, rfl⟩ : c = d ∧ t = u := by simpa [haccepted] using hu
    exact (h.front threads hthreads).accepted t haccepted

/-- What the threads and the match found so far have in common lasts from character to
character, up to the match that is found in the end. -/
theorem runThreads {threads : List Thread} {best : Option (Cursor × Thread)} {text : List Char}
    {stop : Cursor} {t : Thread} (htext : c.after = text) (hthreads : ∀ u ∈ threads, P c u)
    (hbest : ∀ d u, best = some (d, u) → P d u)
    (hfound : runThreads program c threads best text = some (stop, t)) : P stop t := by
  induction text generalizing c threads best with
  | nil => exact h.better hthreads hbest stop t hfound
  | cons x rest ih =>
    rw [Regex.runThreads] at hfound
    split at hfound
    · exact h.better hthreads hbest stop t hfound
    · refine ih rfl ?_ (h.better hthreads hbest) hfound
      intro u hu
      obtain ⟨v, hv, hpass⟩ := List.mem_filterMap.mp hu
      exact h.pass ((h.front threads hthreads).waiting v hv) htext hpass

/-- What holds of the one thread that sets out holds of the one that ends in the match. -/
theorem search {groups : Nat} {stop : Cursor} {t : Thread}
    (hstart : P c ⟨0, [], List.replicate groups none⟩)
    (hfound : search program groups c = some (stop, t)) : P stop t :=
  h.runThreads rfl (List.forall_mem_singleton.mpr hstart) (by simp) hfound

end Lasting

end Peg.Regex
