import Peg.Proofs.ScannerProgram

/-!
Runs, character by character.

A run of characters of a set is passed at once. The same comes of passing single characters
of the set until there is none, and of skipping with this set. Behind a run there is no
character of the set, so that nothing is left to be passed or skipped.
-/
namespace Peg

namespace Cursor

/-- Behind the longest run there is no further one. -/
theorem takeWhile_skipWhile (c : Cursor) (p : Char → Bool) :
    (c.skipWhile p).after.takeWhile p = [] := by
  rw [after_skipWhile, List.takeWhile_eq_nil_iff]
  exact List.dropWhile_get_zero_not p c.after

theorem skipWhile_skipWhile (c : Cursor) (p : Char → Bool) :
    (c.skipWhile p).skipWhile p = c.skipWhile p :=
  skipWhile_of_takeWhile (c.takeWhile_skipWhile p)

end Cursor

namespace Scanner

variable {s t : Scanner} {set : CharSet}

theorem length_remaining_of_scanChar? {x : Char} (h : s.scanChar? set = some (x, t)) :
    t.remaining.length < s.remaining.length := by
  obtain ⟨d, rfl, hpasses⟩ := scanChar?_passes h
  change d.after.length < s.cursor.after.length
  rw [hpasses.after_eq]
  exact Nat.lt_succ_self _

/-- Passes single characters of a set until there is none: the characters, and the scanner
behind them. -/
def scanChars (set : CharSet) (s : Scanner) : List Char × Scanner :=
  match _h : s.scanChar? set with
  | none => ([], s)
  | some (x, t) =>
    let (run, u) := scanChars set t
    (x :: run, u)
termination_by s.remaining.length
decreasing_by exact length_remaining_of_scanChar? ‹_›

theorem scanChar?_eq_none_iff :
    s.scanChar? set = none ↔ s.cursor.after.takeWhile set.contains = [] := by
  unfold scanChar?
  cases s.cursor.after with
  | nil => simp
  | cons x rest => by_cases hx : set.contains x = true <;> simp [hx]

theorem scanChar?_eq_some_iff {x : Char} : s.scanChar? set = some (x, t) ↔
    ∃ rest, s.cursor.after = x :: rest ∧ set.contains x = true ∧
      t = s.reset (s.cursor.step x rest) := by
  unfold scanChar?
  split
  · next h => simp [h]
  · next y rest h =>
    by_cases hy : set.contains y = true
    · rw [if_pos hy, h]
      constructor
      · rintro ⟨⟩
        exact ⟨rest, rfl, hy, rfl⟩
      · rintro ⟨_, ⟨⟩, -, rfl⟩
        rfl
    · rw [if_neg hy, h]
      constructor
      · nofun
      · rintro ⟨_, ⟨⟩, hx, -⟩
        exact absurd hx hy

/-- One character after the other makes the longest run. -/
theorem scanChars_eq (set : CharSet) (s : Scanner) :
    s.scanChars set =
      (s.cursor.after.takeWhile set.contains, s.reset (s.cursor.skipWhile set.contains)) := by
  -- By the steps of the loop: none for the empty run, and one for each further character.
  fun_induction scanChars set s with
  | case1 s h =>
    have hnone := scanChar?_eq_none_iff.mp h
    rw [hnone, Cursor.skipWhile_of_takeWhile hnone]
    rfl
  | case2 s x t h run u hrun ih =>
    obtain ⟨rest, hafter, hx, rfl⟩ := scanChar?_eq_some_iff.mp h
    have hlater : (run, u) = _ := hrun.symm.trans ih
    cases hlater
    rw [hafter, List.takeWhile_cons_of_pos hx, Cursor.skipWhile_of_cons hafter hx]
    rfl

theorem scanSet?_eq (set : CharSet) (s : Scanner) :
    s.scanSet? set = if (s.scanChars set).1 = [] then none else some (s.scanChars set) := by
  rw [scanChars_eq, scanSet?]
  cases s.cursor.after.takeWhile set.contains with
  | nil => rfl
  | cons x rest => rfl

/-- Behind one character after the other there is none. -/
theorem scanChar?_scanChars (set : CharSet) (s : Scanner) :
    (s.scanChars set).2.scanChar? set = none := by
  rw [scanChars_eq, scanChar?_eq_none_iff]
  exact s.cursor.takeWhile_skipWhile set.contains

theorem scanSet?_eq_none_iff : s.scanSet? set = none ↔ s.scanChar? set = none := by
  rw [scanSet?_eq, scanChars_eq, scanChar?_eq_none_iff]
  simp

theorem skippedCursor_of_isSkipping (hskip : s.skip = some set) (h : s.isSkipping = true) :
    s.skippedCursor = s.cursor.skipWhile set.contains := by
  have hactive : s.suppressed = 0 := by
    rw [isSkipping, Bool.and_eq_true] at h
    exact eq_of_beq h.2
  rw [skippedCursor, hskip]
  exact if_pos hactive

/-- Behind the characters that are skipped nothing is skipped any more. -/
theorem skippedCursor_skipNow (s : Scanner) : s.skipNow.skippedCursor = s.skippedCursor := by
  unfold skipNow skippedCursor
  cases s.skip with
  | none => rfl
  | some set =>
    dsimp only
    split
    · exact s.cursor.skipWhile_skipWhile set.contains
    · rfl

end Scanner

/-- To scan a run of characters is to scan single characters as long as there are any: it fails
where not even one is found, and otherwise gives all of them together and ends where they end.
Behind the run nothing is found, and nothing happens. A scanner that skips characters of this
set skips just this run, and behind what is skipped it skips nothing. -/
theorem runs_are_repeated_characters (s : Scanner) (set : CharSet) :
    let run := (s.scanChars set).1
    let t := (s.scanChars set).2
    (s.scanSet? set = none ↔ s.scanChar? set = none) ∧
      (s.scanSet? set ≠ none → s.scanSet? set = some (run, t)) ∧
      (∀ marks, Scanner.Session.perform ⟨t, marks⟩ (.set set) = (.text none, ⟨t, marks⟩)) ∧
      (s.skip = some set → s.isSkipping = true → ∀ marks,
        Scanner.Session.perform ⟨s, marks⟩ .skipNow =
          (Scanner.Session.textReply run, ⟨t, marks⟩)) ∧
      s.skipNow.skippedPosition = s.skippedPosition := by
  intro run t
  refine ⟨Scanner.scanSet?_eq_none_iff, ?_, ?_, ?_, ?_⟩
  · intro hfound
    rw [Scanner.scanSet?_eq] at hfound ⊢
    split at hfound
    · exact absurd rfl hfound
    · next hrun => exact if_neg hrun
  · intro marks
    have hnone : t.scanSet? set = none :=
      Scanner.scanSet?_eq_none_iff.mpr (s.scanChar?_scanChars set)
    rw [Scanner.Session.perform, hnone]
  · intro hskip hactive marks
    -- What is skipped and what is scanned end at the same cursor.
    have hcursor := Scanner.skippedCursor_of_isSkipping hskip hactive
    have hskipped : s.skipNow = t := by
      change s.reset s.skippedCursor = (s.scanChars set).2
      rw [hcursor, Scanner.scanChars_eq]
    have hrun : t.since s.cursor = run := by
      change s.cursor.upTo (s.scanChars set).2.cursor = (s.scanChars set).1
      rw [Scanner.scanChars_eq]
      exact (s.cursor.passes_skipWhile set.contains).upTo_eq
    rw [Scanner.Session.perform]
    dsimp only
    rw [hskipped, hrun]
    rfl
  · exact congrArg Cursor.offset s.skippedCursor_skipNow

/-- The letters é, ß and 𝛼 take two, two and four bytes, and the blank behind them ends the
run. -/
theorem letters_of_all_sizes_are_repeated :
    let set := CharSet.ofClass .letter
    let s := Scanner.ofText "éß𝛼 b".toList (some set)
    let t := (s.scanChars set).2
    (s.scanSet? set ≠ none ∧ s.scanSet? set = some ("éß𝛼".toList, t)) ∧ t.position = 8 ∧
      (s.skip = some set ∧ s.isSkipping = true ∧
        Scanner.Session.perform ⟨s, []⟩ .skipNow =
          (Scanner.Session.textReply "éß𝛼".toList, ⟨t, []⟩)) := by
  intro set s t
  obtain ⟨-, hfound, -, hskipped, -⟩ := runs_are_repeated_characters s set
  -- The loop has to be replaced by the run it makes before it can be computed.
  have hany : s.scanSet? set ≠ none := by decide +kernel
  have hrun : (s.scanChars set).1 = "éß𝛼".toList := by
    rw [Scanner.scanChars_eq]
    decide +kernel
  have hposition : t.position = 8 := by
    change (s.scanChars set).2.position = 8
    rw [Scanner.scanChars_eq]
    decide +kernel
  have hsame := hfound hany
  have hskip := hskipped rfl rfl []
  rw [hrun] at hsame hskip
  exact ⟨⟨hany, hsame⟩, hposition, rfl, rfl, hskip⟩

end Peg
