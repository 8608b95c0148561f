import Peg.Proofs.Captures
import Peg.Proofs.ScannerProgram

/-!
Matches are anchored.

A match is asked for at an offset, and it is a stretch of the text that begins right there.
Its groups lie within this stretch, each under its number and, if it has one, its name.
-/
namespace Peg

namespace Regex

/-- What a match of `r` in `text` tells fits together if it was asked for at `offset`. -/
structure Anchored (r : Regex) (text : List Char) (offset : Nat) (m : Match) : Prop where
  start : m.start.offset = offset
  stop_le : offset ≤ m.stop.offset ∧ m.stop.offset ≤ byteLength text
  stop_boundary : Boundary text m.stop.offset
  whole : Slice text offset m.stop.offset m.text.toList
  group_zero : m.group? 0 = some m.text
  names : m.names = r.names
  length : m.positional.length + 1 = r.groupCount
  /-- There are no groups beyond the last number. -/
  beyond (i : Nat) : r.groupCount ≤ i → m.group? i = none
  named (i : Nat) (name : String) : r.names[i]? = some (some name) →
    m.named? name = m.group? (i + 1)
  unnamed (name : String) : some name ∉ r.names → m.named? name = none
  inside (i : Nat) (word : String) : m.group? i = some word →
    ∃ a b, offset ≤ a ∧ b ≤ m.stop.offset ∧ Slice text a b word.toList

theorem Match.length_positional (m : Match) : m.positional.length = m.groups.length :=
  List.length_map _

/-- No two groups have one name, so a name is found at the one place where it stands. -/
theorem findIdx?_names {r : Regex} {i : Nat} {name : String}
    (h : r.names[i]? = some (some name)) : r.names.findIdx? (· == some name) = some i := by
  obtain ⟨hi, hget⟩ := List.getElem?_eq_some_iff.mp h
  refine List.findIdx?_eq_some_iff_getElem.mpr ⟨hi, by simp [hget], ?_⟩
  intro j hj hfound
  have hsame : r.names[j] = some name := by simpa using hfound
  have hpairs := List.pairwise_filterMap.mp r.names_nodup
  exact List.pairwise_iff_getElem.mp hpairs j i _ hi hj name hsame name hget rfl

theorem Match.text_of_group? {m : Match} {i : Nat} {word : String}
    (h : m.group? (i + 1) = some word) :
    ∃ a b, some (a, b) ∈ m.groups ∧ word = String.ofList (a.upTo b) := by
  have hget : m.positional[i]? = some (some word) := Option.join_eq_some_iff.mp h
  rw [positional, List.getElem?_map] at hget
  obtain ⟨group, hgroup, hword⟩ := Option.map_eq_some_iff.mp hget
  obtain ⟨⟨a, b⟩, rfl, rfl⟩ := Option.map_eq_some_iff.mp hword
  exact ⟨a, b, List.mem_of_getElem? hgroup, rfl⟩

/-- The match at a cursor is anchored at the offset of the cursor. -/
theorem anchored_of_matchFrom {r : Regex} {c : Cursor} {m : Match} (h : r.matchFrom c = some m) :
    r.Anchored c.text c.offset m := by
  have hstart : m.start = c := matchFrom_start h
  have hnames : m.names = r.names := matchFrom_names h
  have hahead : c.Ahead m.stop := matchFrom_ahead h
  have hlength : m.positional.length + 1 = r.groupCount := by
    rw [m.length_positional, matchFrom_length h, groupCount]
  have hslice := (matchFrom_passes h).slice
  exact {
    start := congrArg Cursor.offset hstart
    stop_le := ⟨hahead.offset_le, hahead.text_eq ▸ m.stop.offset_le_byteLength⟩
    stop_boundary := hahead.text_eq ▸ m.stop.boundary
    whole := hslice
    group_zero := rfl
    names := hnames
    length := hlength
    beyond := by
      intro i hi
      cases i with
      | zero => omega
      | succ i =>
        have hbeyond : m.positional[i]? = none := List.getElem?_eq_none (by omega)
        rw [Match.group?, hbeyond]
        rfl
    named := by
      intro i name hname
      rw [Match.named?, hnames, findIdx?_names hname]
    unnamed := by
      intro name hname
      have hnowhere : r.names.findIdx? (· == some name) = none := by
        rw [List.findIdx?_eq_none_iff]
        intro other hother
        rw [beq_eq_false_iff_ne]
        rintro rfl
        exact hname hother
      rw [Match.named?, hnames, hnowhere]
    inside := by
      intro i word hword
      cases i with
      | zero =>
        obtain rfl : m.text = word := Option.some.inj hword
        exact ⟨c.offset, m.stop.offset, Nat.le_refl _, Nat.le_refl _, hslice⟩
      | succ i =>
        obtain ⟨a, b, hab, rfl⟩ := Match.text_of_group? hword
        obtain ⟨ha, hb, hstop⟩ := matchFrom_groups h hab
        obtain ⟨piece, hpiece⟩ := hb.passes
        refine ⟨a.offset, b.offset, ha.offset_le, hstop.offset_le, ?_⟩
        rw [hpiece.upTo_eq, String.toList_ofList, ← ha.text_eq]
        exact hpiece.slice }

end Regex

theorem Regex.matchAt_offset (r : Regex) (c : Cursor) :
    r.matchAt c.text c.offset = .ok (r.matchFrom c) := by
  have hinside : ¬ byteLength c.text + 1 < c.offset := by
    have hle := c.offset_le_byteLength
    omega
  rw [matchAt, if_neg hinside, c.ofOffset?_offset]
  rfl

/-- Whatever pattern `r` was made from, a match at an offset of a text is anchored there. An
offset inside a character has no match. A scanner passes exactly the match at the offset
behind the characters that it skips. -/
theorem matches_are_anchored (r : Regex) (text : List Char) (offset : Nat)
    (hoffset : offset ≤ byteLength text) :
    (∃ found, r.matchAt text offset = .ok found ∧
        ∀ m, found = some m → r.Anchored text offset m) ∧
      (¬ Boundary text offset → r.matchAt text offset = .ok none) ∧
      ∀ s : Scanner, s.source = text → s.skippedPosition = offset →
        r.matchAt text offset = .ok ((s.scanRegex? r).map (·.1)) ∧
          ∀ m t, s.scanRegex? r = some (m, t) → t.position = m.stop.offset := by
  have houtside : ¬ Boundary text offset → r.matchAt text offset = .ok none := by
    intro hno
    have hnone : Cursor.ofOffset? text offset = none := by
      rw [← Option.not_isSome_iff_eq_none, Cursor.boundary_iff_isSome]
      exact hno
    rw [Regex.matchAt, if_neg (by omega), hnone]
    rfl
  refine ⟨?_, houtside, ?_⟩
  · by_cases hboundary : Boundary text offset
    · obtain ⟨c, rfl, rfl⟩ := Cursor.exists_of_boundary hboundary
      refine ⟨_, r.matchAt_offset c, ?_⟩
      intro m hm
      exact Regex.anchored_of_matchFrom hm
    · exact ⟨none, houtside hboundary, nofun⟩
  · rintro s rfl rfl
    have hsource : s.skippedCursor.text = s.source := s.ahead_skippedCursor.text_eq
    have hmatch : r.matchAt s.source s.skippedPosition = .ok (r.matchFrom s.skippedCursor) :=
      hsource ▸ r.matchAt_offset s.skippedCursor
    refine ⟨?_, ?_⟩
    · rw [hmatch, Scanner.scanRegex?, Option.map_map]
      exact congrArg Except.ok Option.map_id'.symm
    · intro m t hscan
      obtain ⟨_, -, heq⟩ := Option.map_eq_some_iff.mp hscan
      cases heq
      rfl

/-- One or more letters é, each with an x behind it or not, and letters ñ and b. -/
def Regex.accented : Regex :=
  .ofPattern "(?<word>é(x)?)+(ñ|b)*"
    (.seq
      (.times 1 none true (.group 1 (some "word")
        (.seq (.literal ['é']) (.times 0 (some 1) true (.group 2 none (.literal ['x']))))))
      (.times 0 none true (.group 3 none (.alt (.literal ['ñ']) (.literal ['b'])))))
    (by decide)

/-- The second round of the first group has no x, so the x is that of the first round. Offset
2 is inside of the first é. -/
theorem accented_is_anchored :
    let text := ['a', 'é', 'x', 'é', 'ñ', 'c']
    (∃ m, Regex.accented.matchAt text 1 = .ok (some m) ∧ Regex.accented.Anchored text 1 m ∧
        m.text = "éxéñ" ∧ m.positional = [some "é", some "x", some "ñ"]) ∧
      Regex.accented.matchAt text 2 = .ok none := by
  intro text
  obtain ⟨⟨found, hfound, hanchored⟩, -, -⟩ :=
    matches_are_anchored Regex.accented text 1 (by decide)
  obtain ⟨-, hinside, -⟩ := matches_are_anchored Regex.accented text 2 (by decide)
  refine ⟨?_, hinside (by decide +kernel)⟩
  have hshape : (Regex.accented.matchAt text 1).toOption.join.any (fun m =>
      m.text == "éxéñ" && m.positional == [some "é", some "x", some "ñ"]) = true := by
    decide +kernel
  rw [hfound] at hshape
  cases found with
  | none => cases hshape
  | some m =>
    obtain ⟨htext, hgroups⟩ : m.text = "éxéñ" ∧ m.positional = [some "é", some "x", some "ñ"] := by
      simpa [Except.toOption] using hshape
    exact ⟨m, hfound, hanchored m rfl, htext, hgroups⟩

end Peg
