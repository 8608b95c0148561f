import Peg.CharSet.Basic

/-!
What character sets contain.

A description says how a set is put together, and it has a plain meaning: each of its
words stands for a condition on characters. The set that is built from a description has
flat sets merged, unions made longer and complements taken off again, and contains exactly
the characters that the description means.
-/
namespace Peg

theorem ClassSet.has_single (j k : CharClass) : (single j).has k = decide (j = k) := by
  cases j <;> cases k <;> rfl

theorem ClassSet.has_union (s t : ClassSet) (k : CharClass) :
    (s.union t).has k = (s.has k || t.has k) := by
  cases k <;> rfl

theorem ClassSet.contains_iff {s : ClassSet} {c : Char} :
    s.contains c = true ↔ ∃ k, s.has k = true ∧ k.contains c = true := by
  constructor
  · intro h
    simp only [contains, Bool.or_eq_true, Bool.and_eq_true] at h
    rcases h with ((((h | h) | h) | h) | h) | h
    · exact ⟨.blank, h⟩
    · exact ⟨.newline, h⟩
    · exact ⟨.digit, h⟩
    · exact ⟨.letter, h⟩
    · exact ⟨.alphanumeric, h⟩
    · exact ⟨.punctuation, h⟩
  · rintro ⟨k, hhas, hc⟩
    cases k <;> simp_all [contains, has]

theorem ClassSet.isEmpty_iff {s : ClassSet} : s.isEmpty = true ↔ ∀ k, s.has k = false := by
  constructor
  · intro h k
    obtain rfl : s = empty := by simpa [isEmpty] using h
    cases k <;> rfl
  · intro h
    -- The classes are all there is to a set of classes.
    have hnone : s = empty := by
      cases s
      simp only [empty, mk.injEq]
      exact ⟨h .blank, h .newline, h .digit, h .letter, h .alphanumeric, h .punctuation⟩
    simp [isEmpty, hnone]

theorem CharClass.exists_contains (k : CharClass) : ∃ c, k.contains c = true := by
  cases k with
  | blank => exact ⟨' ', by decide +kernel⟩
  | newline => exact ⟨'\n', by decide +kernel⟩
  | digit => exact ⟨'0', by decide +kernel⟩
  | letter => exact ⟨'a', by decide +kernel⟩
  | alphanumeric => exact ⟨'a', by decide +kernel⟩
  | punctuation => exact ⟨'!', by decide +kernel⟩

namespace CharSet

theorem inRange_iff {c : Char} {r : Char × Char} : inRange c r = true ↔ r.1 ≤ c ∧ c ≤ r.2 := by
  simp [inRange]

theorem inRange_single {c x : Char} : inRange c (x, x) = true ↔ x = c := by
  rw [inRange_iff]
  constructor
  · rintro ⟨hle, hge⟩
    exact Char.le_antisymm hle hge
  · rintro rfl
    exact ⟨Char.le_refl x, Char.le_refl x⟩

theorem someContains_append (sets sets' : List CharSet) (c : Char) :
    someContains (sets ++ sets') c = (someContains sets c || someContains sets' c) := by
  induction sets with
  | nil => simp [someContains]
  | cons s rest ih => simp [someContains, ih, Bool.or_assoc]

theorem contains_flat_union (a b : ClassSet) (ra rb : List (Char × Char)) (c : Char) :
    (flat (a.union b) (ra ++ rb)).contains c =
      ((flat a ra).contains c || (flat b rb).contains c) := by
  have hclasses : (a.union b).contains c = (a.contains c || b.contains c) := by
    rw [Bool.eq_iff_iff, Bool.or_eq_true]
    simp only [ClassSet.contains_iff, ClassSet.has_union, Bool.or_eq_true]
    grind
  simp only [contains, hclasses, List.any_append]
  ac_rfl

/-- A union contains what one of its operands contains, whatever their forms. -/
theorem contains_union (s t : CharSet) (c : Char) :
    (s.union t).contains c = (s.contains c || t.contains c) := by
  cases s with
  | flat a ra =>
    cases t with
    | flat b rb => exact contains_flat_union a b ra rb c
    | complement inner => simp [union, contains, someContains]
    | anyOf sets => simp [union, contains, someContains]
  | complement inner => simp [union, contains, someContains]
  | anyOf sets => simp [union, contains, someContains_append, someContains]

theorem contains_invert (s : CharSet) (c : Char) : s.invert.contains c = !s.contains c := by
  cases s with
  | flat classes ranges => simp [invert, contains]
  | complement inner => simp [invert, contains]
  | anyOf sets => simp [invert, contains]

/-- A flat set is seen to be empty exactly if it has no members: a class always has one, and
so has an interval whose ends are in order. -/
theorem isEmpty_flat_iff {classes : ClassSet} {ranges : List (Char × Char)} :
    (flat classes ranges).isEmpty = true ↔ ∀ c, (flat classes ranges).contains c = false := by
  simp only [isEmpty, contains, Bool.and_eq_true, Bool.or_eq_false_iff, ClassSet.isEmpty_iff,
    List.all_eq_true, List.any_eq_false]
  constructor
  · rintro ⟨hclasses, hranges⟩ c
    refine ⟨?_, ?_⟩
    · rw [← Bool.not_eq_true, ClassSet.contains_iff]
      rintro ⟨k, hhas, -⟩
      rw [hclasses k] at hhas
      cases hhas
    · intro r hr hc
      obtain ⟨hlo, hhi⟩ := inRange_iff.mp hc
      have hreversed := hranges r hr
      simp only [Bool.not_eq_true', decide_eq_false_iff_not] at hreversed
      exact hreversed (Char.le_trans hlo hhi)
  · intro h
    refine ⟨?_, ?_⟩
    · intro k
      obtain ⟨c, hc⟩ := k.exists_contains
      rw [← Bool.not_eq_true]
      intro hhas
      have hmember : classes.contains c = true := ClassSet.contains_iff.mpr ⟨k, hhas, hc⟩
      rw [(h c).1] at hmember
      cases hmember
    · intro r hr
      simp only [Bool.not_eq_true', decide_eq_false_iff_not]
      intro horder
      exact (h r.1).2 r hr (inRange_iff.mpr ⟨Char.le_refl _, horder⟩)

mutual

theorem contains_of_isEmpty : ∀ {s : CharSet}, s.isEmpty = true → ∀ c, s.contains c = false
  | flat _ _, h, c => isEmpty_flat_iff.mp h c
  | complement _, h, _ => nomatch h
  | anyOf _, h, c => someContains_of_allEmpty h c

theorem someContains_of_allEmpty :
    ∀ {sets : List CharSet}, allEmpty sets = true → ∀ c, someContains sets c = false
  | [], _, _ => rfl
  | s :: rest, h, c => by
    obtain ⟨hfirst, hrest⟩ : s.isEmpty = true ∧ allEmpty rest = true := by
      simpa [allEmpty] using h
    simp [someContains, contains_of_isEmpty hfirst c, someContains_of_allEmpty hrest c]

end

/-- How a set is put together. A union can be asked for by name or with a bar. -/
inductive Description where
  | empty
  | ofClass (k : CharClass)
  | ofChars (text : String)
  | range (lo hi : Char)
  | union (a b : Description)
  | bar (a b : Description)
  | invert (a : Description)

namespace Description

/-- The set that is put together. -/
def build : Description → CharSet
  | empty => CharSet.empty
  | ofClass k => CharSet.ofClass k
  | ofChars text => CharSet.ofChars text
  | range lo hi => CharSet.range lo hi
  | union a b => a.build.union b.build
  | bar a b => a.build ||| b.build
  | invert a => a.build.invert

/-- Whether a character is meant by a description. -/
def means (c : Char) : Description → Bool
  | empty => false
  | ofClass k => k.contains c
  | ofChars text => text.toList.contains c
  | range lo hi => lo ≤ c && c ≤ hi
  | union a b => a.means c || b.means c
  | bar a b => a.means c || b.means c
  | invert a => !a.means c

/-- Whether a description takes no complements. -/
def isPositive : Description → Bool
  | empty | ofClass _ | ofChars _ | range _ _ => true
  | union a b | bar a b => a.isPositive && b.isPositive
  | invert _ => false

/-- The set that is built contains what its description means. -/
theorem contains_build (d : Description) (c : Char) : d.build.contains c = d.means c := by
  induction d with
  | empty => rfl
  | ofClass k =>
    have hclass : (ClassSet.single k).contains c = k.contains c := by
      rw [Bool.eq_iff_iff, ClassSet.contains_iff]
      simp [ClassSet.has_single]
    simp [build, means, CharSet.ofClass, CharSet.contains, hclass]
  | ofChars text =>
    rw [Bool.eq_iff_iff]
    simp [build, means, CharSet.ofChars, CharSet.contains, ClassSet.contains, ClassSet.empty,
      inRange_single]
  | range lo hi =>
    simp [build, means, CharSet.range, CharSet.contains, ClassSet.contains, ClassSet.empty,
      inRange]
  | union a b iha ihb => rw [build, contains_union, iha, ihb, means]
  | bar a b iha ihb =>
    change (a.build.union b.build).contains c = _
    rw [contains_union, iha, ihb, means]
  | invert a ih => rw [build, contains_invert, ih, means]

/-- Whether a class is named in a description. -/
def names (k : CharClass) : Description → Bool
  | ofClass j => j = k
  | union a b | bar a b => a.names k || b.names k
  | invert a => a.names k
  | empty | ofChars _ | range _ _ => false

/-- The intervals in a description from left to right, where a character is an interval too. -/
def intervals : Description → List (Char × Char)
  | ofChars text => text.toList.map fun c => (c, c)
  | range lo hi => [(lo, hi)]
  | union a b | bar a b => a.intervals ++ b.intervals
  | invert a => a.intervals
  | empty | ofClass _ => []

/-- Without complements all unions are merged, so that one flat set is left. It has the classes
and the intervals of the description, and the intervals are in their order. -/
theorem build_eq_flat {d : Description} (h : d.isPositive = true) :
    ∃ classes : ClassSet, d.build = flat classes d.intervals ∧
      ∀ k, classes.has k = d.names k := by
  induction d with
  | empty | ofChars _ | range _ _ => exact ⟨ClassSet.empty, rfl, fun k => by cases k <;> rfl⟩
  | ofClass j => exact ⟨ClassSet.single j, rfl, ClassSet.has_single j⟩
  | union a b iha ihb | bar a b iha ihb =>
    obtain ⟨ha, hb⟩ : a.isPositive = true ∧ b.isPositive = true := by
      simpa [isPositive] using h
    obtain ⟨classes, hbuilt, hnames⟩ := iha ha
    obtain ⟨classes', hbuilt', hnames'⟩ := ihb hb
    refine ⟨classes.union classes', ?_, ?_⟩
    · change a.build.union b.build = _
      rw [hbuilt, hbuilt']
      rfl
    · intro k
      rw [ClassSet.has_union, hnames, hnames']
      rfl
  | invert _ _ => cases h

theorem build_flat {d : Description} (h : d.isPositive = true) :
    ∃ classes ranges, d.build = flat classes ranges :=
  (build_eq_flat h).imp fun _ hbuilt => ⟨d.intervals, hbuilt.1⟩

end Description

/-- A set contains exactly the characters that its description means, however the unions
and complements in it were nested. One that counts as empty contains no character, and
one that is described without complements counts as empty whenever it contains none. -/
theorem set_contains_what_is_meant (d : Description) :
    (∀ c, d.build.contains c = d.means c) ∧
      (d.build.isEmpty = true → ∀ c, d.means c = false) ∧
      (d.isPositive = true → (d.build.isEmpty = true ↔ ∀ c, d.means c = false)) := by
  have hmeans : ∀ c, d.build.contains c = d.means c := d.contains_build
  refine ⟨hmeans, ?_, ?_⟩
  · intro hempty c
    rw [← hmeans c]
    exact contains_of_isEmpty hempty c
  · intro hpositive
    obtain ⟨classes, ranges, hflat⟩ := Description.build_flat hpositive
    simp only [← hmeans]
    rw [hflat]
    exact isEmpty_flat_iff

/-- An interval in the wrong order and a text without characters make a set that is seen to
be empty. What it has in common with the digits, by way of complements, is not. -/
theorem reversed_interval_is_empty :
    let d : Description := .bar (.union (.range 'z' 'a') .empty) (.ofChars "")
    let twice : Description := .invert (.union (.invert d) (.invert (.ofClass .digit)))
    ((d.build.isEmpty = true ∧ ∀ c, d.means c = false) ∧
        d.isPositive = true ∧ (d.build.isEmpty = true ↔ ∀ c, d.means c = false)) ∧
      twice.build.isEmpty = false ∧ ∀ c, twice.build.contains c = false := by
  intro d twice
  obtain ⟨-, hempty, hiff⟩ := set_contains_what_is_meant d
  have hbuilt : d.build.isEmpty = true := by decide
  refine ⟨⟨⟨hbuilt, hempty hbuilt⟩, rfl, hiff rfl⟩, by decide, ?_⟩
  intro c
  rw [(set_contains_what_is_meant twice).1 c]
  have hd : d.means c = false := hempty hbuilt c
  simp [twice, Description.means, hd]

end CharSet

end Peg
