import Peg.Proofs.Membership

/-!
The form of character sets.

Sets are simplified as they are built, and so no complement of a complement is left in
them, and no union of fewer than two sets. It is for this reason that the complement of
the complement is the set itself, in form and not only in what it contains.
-/
namespace Peg.CharSet

/-- The nodes of a set: the set itself, and the nodes of what it is put together from. -/
inductive Node : CharSet → CharSet → Prop
  | root (s : CharSet) : Node s s
  | inner {n s : CharSet} : Node n s → Node n (complement s)
  | member {n s : CharSet} {sets : List CharSet} : s ∈ sets → Node n s → Node n (anyOf sets)

/-- Whether there is nothing to simplify at the root of a set. -/
def Simplified : CharSet → Prop
  | flat _ _ => True
  | complement inner => ∀ s, inner ≠ complement s
  | anyOf sets => 2 ≤ sets.length

/-- Whether there is nothing to simplify anywhere in a set. -/
def Normal (s : CharSet) : Prop :=
  ∀ n, Node n s → n.Simplified

theorem normal_flat (classes : ClassSet) (ranges : List (Char × Char)) :
    (flat classes ranges).Normal := by
  rintro _ ⟨⟩
  trivial

theorem normal_complement_iff {s : CharSet} :
    (complement s).Normal ↔ (∀ t, s ≠ complement t) ∧ s.Normal := by
  constructor
  · intro h
    exact ⟨h _ (.root _), fun n hn => h n (.inner hn)⟩
  · rintro ⟨hroot, hinner⟩ n hn
    cases hn with
    | root => exact hroot
    | inner hn => exact hinner n hn

theorem normal_anyOf_iff {sets : List CharSet} :
    (anyOf sets).Normal ↔ 2 ≤ sets.length ∧ ∀ s ∈ sets, s.Normal := by
  constructor
  · intro h
    exact ⟨h _ (.root _), fun s hs n hn => h n (.member hs hn)⟩
  · rintro ⟨hroot, hmembers⟩ n hn
    cases hn with
    | root => exact hroot
    | member hs hn => exact hmembers _ hs n hn

theorem normal_pair {s t : CharSet} (hs : s.Normal) (ht : t.Normal) : (anyOf [s, t]).Normal := by
  refine normal_anyOf_iff.mpr ⟨Nat.le_refl 2, ?_⟩
  simpa using ⟨hs, ht⟩

theorem normal_union {s t : CharSet} (hs : s.Normal) (ht : t.Normal) : (s.union t).Normal := by
  -- Two flat sets are merged, and a union on the left takes in the other set. All else makes
  -- a new union of two.
  cases s with
  | flat a ra =>
    cases t with
    | flat b rb => exact normal_flat _ _
    | complement _ | anyOf _ => exact normal_pair hs ht
  | complement _ => exact normal_pair hs ht
  | anyOf sets =>
    obtain ⟨hlength, hmembers⟩ := normal_anyOf_iff.mp hs
    refine normal_anyOf_iff.mpr ⟨?_, ?_⟩
    · rw [List.length_append]
      exact Nat.le_add_right_of_le hlength
    · intro m hm
      rcases List.mem_append.mp hm with hm | hm
      · exact hmembers m hm
      · exact List.mem_singleton.mp hm ▸ ht

theorem normal_invert {s : CharSet} (h : s.Normal) : s.invert.Normal := by
  -- A complement is only put around a set that is none.
  cases s with
  | flat _ _ | anyOf _ => exact normal_complement_iff.mpr ⟨nofun, h⟩
  | complement inner => exact (normal_complement_iff.mp h).2

/-- Whatever a set is described by, there is nothing left to simplify. -/
theorem Description.normal_build (d : Description) : d.build.Normal := by
  induction d with
  | empty | ofClass _ | ofChars _ | range _ _ => exact normal_flat _ _
  | union _ _ iha ihb | bar _ _ iha ihb => exact normal_union iha ihb
  | invert _ ih => exact normal_invert ih

/-- The complement of the complement is the set itself, unless the set begins with two
complements: these are taken off and not put back. -/
theorem invert_invert_iff {s : CharSet} :
    s.invert.invert = s ↔ ∀ t, s ≠ complement (complement t) := by
  constructor
  · rintro h t rfl
    have hsize : sizeOf t = sizeOf (complement (complement t)) := congrArg sizeOf h
    simp only [complement.sizeOf_spec] at hsize
    omega
  · intro h
    cases s with
    | flat _ _ | anyOf _ => rfl
    | complement inner =>
      cases inner with
      | flat _ _ | anyOf _ => rfl
      | complement t => exact absurd rfl (h t)

mutual

theorem sameForm_refl : ∀ s : CharSet, s.sameForm s = true
  | flat _ _ => by simp [sameForm]
  | complement inner => sameForm_refl inner
  | anyOf sets => sameForms_refl sets

theorem sameForms_refl : ∀ sets : List CharSet, sameForms sets sets = true
  | [] => rfl
  | s :: rest => by simp [sameForms, sameForm_refl s, sameForms_refl rest]

end

/-- Of the set that is built from a description, no node is a complement of a complement or a
union of fewer than two sets. Without complements in the description it is one flat node, with
the intervals of the description from left to right. So two complements of it give the very
same set. -/
theorem sets_stay_in_normal_form (d : Description) :
    (∀ n, Node n d.build →
        (∀ s, n ≠ complement (complement s)) ∧ ∀ sets, n = anyOf sets → 2 ≤ sets.length) ∧
      (d.isPositive = true → ∃ classes : ClassSet, d.build = flat classes d.intervals ∧
        ∀ k, classes.has k = d.names k) ∧
      d.build.invert.invert = d.build ∧ (d.build.invert.invert == d.build) = true := by
  have hnodes : ∀ n, Node n d.build →
      (∀ s, n ≠ complement (complement s)) ∧ ∀ sets, n = anyOf sets → 2 ≤ sets.length := by
    intro n hn
    have hsimplified := d.normal_build n hn
    refine ⟨?_, ?_⟩
    · rintro s rfl
      exact hsimplified s rfl
    · rintro sets rfl
      exact hsimplified
  have htwice : d.build.invert.invert = d.build :=
    invert_invert_iff.mpr (hnodes _ (.root _)).1
  refine ⟨hnodes, Description.build_eq_flat, htwice, ?_⟩
  rw [htwice]
  exact sameForm_refl d.build

/-- The signs are merged with the digits and letters, but not with a complement next to them.
There are complements within the union and around it, and none right inside another. A set
that begins with two complements is not built from any description. -/
theorem complements_stay_apart :
    let signed : Description := .bar (.ofChars "+-") (.union (.ofClass .digit) (.range 'a' 'f'))
    let mixed : Description :=
      .invert (.union (.union (.invert signed) (.invert (.invert signed))) signed)
    let ranges := [('+', '+'), ('-', '-'), ('a', 'f')]
    let set := flat (ClassSet.single .digit) ranges
    (signed.isPositive = true ∧ ∃ classes : ClassSet, signed.build = flat classes ranges ∧
        ∀ k, classes.has k = signed.names k) ∧
      (mixed.build = complement (anyOf [complement set, set, set]) ∧
        mixed.build.invert.invert = mixed.build) ∧
      ∀ d : Description, d.build ≠ complement (complement set) := by
  intro signed mixed ranges set
  obtain ⟨-, hflat, -⟩ := sets_stay_in_normal_form signed
  obtain ⟨-, -, htwice, -⟩ := sets_stay_in_normal_form mixed
  refine ⟨⟨rfl, hflat rfl⟩, ⟨rfl, htwice⟩, ?_⟩
  intro d hd
  exact ((sets_stay_in_normal_form d).1 _ (.root _)).1 set hd

end Peg.CharSet
