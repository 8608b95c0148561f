import Peg.Proofs.Scan

/-!
Where the groups of a match lie.

A thread notes where a group begins before it notes where the group ends, and it
never goes back. So each group that took part in a match is a stretch of the
text between the start of the match and its stop.
-/
namespace Peg.Regex

/-- What a thread has noted on its way from `start` to `c` lies between the two,
and no group ends before it begins. -/
structure Thread.Orderly (start c : Cursor) (t : Thread) : Prop where
  opened : ∀ d ∈ t.opened, start.Ahead d ∧ d.Ahead c
  groups : ∀ a b, some (a, b) ∈ t.groups → start.Ahead a ∧ a.Ahead b ∧ b.Ahead c

namespace Thread.Orderly

variable {start c d : Cursor} {t : Thread}

theorem advance (h : t.Orderly start c) (hd : c.Ahead d) : t.Orderly start d where
  opened e he := ⟨(h.opened e he).1, (h.opened e he).2.trans hd⟩
  groups a b hab :=
    have ⟨ha, hb, hc⟩ := h.groups a b hab
    ⟨ha, hb, hc.trans hd⟩

theorem goTo (h : t.Orderly start c) (pc : Nat) : (t.goTo pc).Orderly start c :=
  ⟨h.opened, h.groups⟩

theorem enter (h : t.Orderly start c) (hc : start.Ahead c) : (t.enter c).Orderly start c where
  opened e he := by
    rcases List.mem_cons.mp he with rfl | he
    · exact ⟨hc, Cursor.Ahead.refl e⟩
    · exact h.opened e he
  groups := h.groups

theorem leave (h : t.Orderly start c) (index : Nat) : (t.leave index c).Orderly start c := by
  unfold Thread.leave
  split
  · exact h.goTo _
  · next first opened hopened =>
    have hfirst := h.opened first (by rw [hopened]; exact List.mem_cons_self)
    refine ⟨fun e he => h.opened e (by rw [hopened]; exact List.mem_cons_of_mem _ he), ?_⟩
    intro a b hab
    rcases List.mem_or_eq_of_mem_set hab with hab | hab
    · exact h.groups a b hab
    · cases hab
      exact ⟨hfirst.1, hfirst.2, Cursor.Ahead.refl _⟩

theorem next (h : t.Orderly start c) (hc : start.Ahead c) (inst : Inst) :
    ∀ u ∈ t.next inst c, u.Orderly start c := by
  intro u hu
  cases inst with
  | char s => cases hu
  | accept => cases hu
  | look l =>
    simp only [Thread.next] at hu
    split at hu
    · cases List.mem_singleton.mp hu
      exact h.goTo _
    · cases hu
  | split first second =>
    rcases List.mem_cons.mp hu with rfl | hu
    · exact h.goTo _
    · cases List.mem_singleton.mp hu
      exact h.goTo _
  | jump target =>
    cases List.mem_singleton.mp hu
    exact h.goTo _
  | enter =>
    cases List.mem_singleton.mp hu
    exact h.enter hc
  | leave index =>
    cases List.mem_singleton.mp hu
    exact h.leave index

theorem pass? {program : Array Inst} {x : Char} {u : Thread} (h : t.Orderly start c)
    (hu : Thread.pass? program x t = some u) : u.Orderly start c := by
  unfold Thread.pass? at hu
  split at hu
  · split at hu
    · cases hu
      exact h.goTo _
    · cases hu
  · cases hu

end Thread.Orderly

/-- No group gets lost and none is added: each keeps the place that its number gives it. -/
theorem Thread.length_groups_of_mem_next {t u : Thread} {inst : Inst} {c : Cursor}
    (h : u ∈ t.next inst c) : u.groups.length = t.groups.length := by
  cases inst with
  | char _ | accept => cases h
  | look l =>
    simp only [next] at h
    split at h
    · cases List.mem_singleton.mp h
      rfl
    · cases h
  | split _ _ =>
    rcases List.mem_cons.mp h with rfl | h
    · rfl
    · cases List.mem_singleton.mp h
      rfl
  | jump _ | enter =>
    cases List.mem_singleton.mp h
    rfl
  | leave index =>
    cases List.mem_singleton.mp h
    unfold leave
    split
    · rfl
    · exact List.length_set

theorem length_groups_lasting (program : Array Inst) (size : Nat) :
    Lasting program fun _ t => t.groups.length = size where
  follow h _ next := (Thread.length_groups_of_mem_next next).trans h
  pass h _ passes := by
    unfold Thread.pass? at passes
    split at passes
    · split at passes
      · cases passes
        exact h
      · cases passes
    · cases passes

/-- Threads stay orderly, whatever instructions they follow. -/
theorem orderly_lasting (program : Array Inst) (start : Cursor) :
    Lasting program fun c t => start.Ahead c ∧ t.Orderly start c where
  follow h _ next := ⟨h.1, h.2.next h.1 _ _ next⟩
  pass h ahead passes :=
    have hstep := Cursor.ahead_step ahead
    ⟨h.1.trans hstep, (h.2.pass? passes).advance hstep⟩

section

variable {r : Regex} {c : Cursor} {m : Match}

/-- A match has a place for each group that has a place among the names. -/
theorem matchFrom_length (h : r.matchFrom c = some m) : m.groups.length = r.names.length := by
  unfold matchFrom at h
  obtain ⟨⟨stop, t⟩, hfound, rfl⟩ := Option.map_eq_some_iff.mp h
  exact (length_groups_lasting r.program r.names.length).search List.length_replicate hfound

/-- A group that took part in a match begins and ends within the match. -/
theorem matchFrom_groups {a b : Cursor} (h : r.matchFrom c = some m)
    (hab : some (a, b) ∈ m.groups) : c.Ahead a ∧ a.Ahead b ∧ b.Ahead m.stop := by
  unfold matchFrom at h
  obtain ⟨⟨stop, t⟩, hfound, rfl⟩ := Option.map_eq_some_iff.mp h
  have horderly : t.Orderly c stop := by
    refine ((orderly_lasting r.program c).search ⟨Cursor.Ahead.refl c, ?_⟩ hfound).2
    -- The one thread that sets out has noted nothing.
    refine ⟨nofun, ?_⟩
    intro a b hab
    cases List.eq_of_mem_replicate hab
  exact horderly.groups a b hab

end

end Peg.Regex
