import Peg.Proofs.Diagnosis
import Peg.Proofs.ScannerProgram

/-!
Lines and columns.

The text in front of a cursor falls into lines that are ended by line feeds, and the
beginning of one more line. The line of the cursor counts these lines, and its column
counts the characters of that beginning. So a line and a column tell the offset that
they are those of, and offsets have the order of their lines and columns.
-/
namespace Peg

/-- Lines one after the other, each with the line feed that ends it. -/
def endedLines (ls : List (List Char)) : List Char :=
  ls.flatMap (· ++ ['\n'])

/-- Where the line with a number begins, counted from zero: behind all lines before it and
their line feeds. -/
def lineStart (text : List Char) (i : Nat) : Nat :=
  byteLength (endedLines ((text.splitOn '\n').take i))

/-- The offset at a line and a column, both counted from one, if the line reaches that far. -/
def offsetAt? (text : List Char) : Nat × Nat → Option Nat
  | (i + 1, k + 1) =>
    ((text.splitOn '\n')[i]?.filter fun line => k ≤ line.length).map fun line =>
      lineStart text i + byteLength (line.take k)
  | _ => none

/-- A text falls into lines that are ended, and the beginning `word` of one more. -/
structure Splits (text : List Char) (ls : List (List Char)) (word : List Char) : Prop where
  text_eq : text = endedLines ls ++ word
  unbroken : ∀ line ∈ ls, '\n' ∉ line
  word_unbroken : '\n' ∉ word

theorem endedLines_cons (line : List Char) (ls : List (List Char)) :
    endedLines (line :: ls) = line ++ '\n' :: endedLines ls :=
  List.append_assoc line ['\n'] (endedLines ls)

theorem endedLines_append (ls ls' : List (List Char)) :
    endedLines (ls ++ ls') = endedLines ls ++ endedLines ls' :=
  List.flatMap_append

theorem endedLines_concat (ls : List (List Char)) (line : List Char) :
    endedLines (ls ++ [line]) = endedLines ls ++ line ++ ['\n'] := by
  rw [endedLines_append, endedLines_cons, List.append_assoc]
  rfl

theorem beq_of_unbroken {word : List Char} (h : '\n' ∉ word) : ∀ x ∈ word, (x == '\n') = false :=
  fun _ hx => beq_eq_false_iff_ne.mpr (ne_of_mem_of_not_mem hx h)

theorem takeWhile_unbroken {word : List Char} (h : '\n' ∉ word) (before : List Char) :
    (word.reverse ++ before).takeWhile (· != '\n') =
      word.reverse ++ before.takeWhile (· != '\n') := by
  apply List.takeWhile_append_of_pos
  intro x hx
  exact congrArg not (beq_of_unbroken h x (List.mem_reverse.mp hx))

theorem exists_splits (text : List Char) : ∃ ls word, Splits text ls word := by
  -- A line feed ends the word, and any other character makes it longer.
  induction text using List.reverseRecOn with
  | nil => exact ⟨[], [], rfl, nofun, nofun⟩
  | append_singleton text x ih =>
    obtain ⟨ls, word, htext, hls, hword⟩ := ih
    by_cases hx : x = '\n'
    · subst hx
      refine ⟨ls ++ [word], [], ?_, ?_, nofun⟩
      · rw [htext, endedLines_concat, List.append_nil]
      · simpa [or_imp, forall_and] using ⟨hls, hword⟩
    · refine ⟨ls, word ++ [x], ?_, hls, ?_⟩
      · rw [htext, List.append_assoc]
      · simpa using ⟨hword, Ne.symm hx⟩

theorem count_endedLines {ls : List (List Char)} (h : ∀ line ∈ ls, '\n' ∉ line) :
    (endedLines ls).count '\n' = ls.length := by
  induction ls with
  | nil => rfl
  | cons line rest ih =>
    have hline : line.count '\n' = 0 := List.count_eq_zero.mpr (h line List.mem_cons_self)
    rw [endedLines_cons, List.count_append, List.count_cons_self, hline, Nat.zero_add,
      ih fun l hl => h l (List.mem_cons_of_mem _ hl), List.length_cons]

/-- Ended lines in front of a text are lines of the whole. -/
theorem splitOn_endedLines {ls : List (List Char)} (h : ∀ line ∈ ls, '\n' ∉ line)
    (text : List Char) : (endedLines ls ++ text).splitOn '\n' = ls ++ text.splitOn '\n' := by
  induction ls with
  | nil => rfl
  | cons line rest ih =>
    have hline := beq_of_unbroken (h line List.mem_cons_self)
    rw [endedLines_cons, List.append_assoc, List.cons_append, List.splitOn_eq_splitOnP,
      List.splitOnP_append_cons_of_forall_mem hline _ rfl,
      ← List.splitOn_eq_splitOnP, ih fun l hl => h l (List.mem_cons_of_mem _ hl)]
    rfl

/-- The first line of a text begins with what there is before any line feed. -/
theorem splitOn_unbroken {word : List Char} (h : '\n' ∉ word) (text : List Char) :
    ∃ more others, (word ++ text).splitOn '\n' = (word ++ more) :: others := by
  induction word with
  | nil => exact List.exists_cons_of_ne_nil (List.splitOnP_ne_nil _ _)
  | cons x rest ih =>
    obtain ⟨hx, hrest⟩ := List.ne_and_not_mem_of_not_mem_cons h
    obtain ⟨more, others, hsplit⟩ := ih hrest
    refine ⟨more, others, ?_⟩
    rw [List.splitOn_eq_splitOnP] at hsplit ⊢
    rw [List.cons_append, List.splitOnP_cons_eq_if_modifyHead, if_neg (by simpa using Ne.symm hx),
      hsplit]
    rfl

namespace Splits

variable {text : List Char} {ls : List (List Char)} {word : List Char}

theorem count_eq (h : Splits text ls word) : text.count '\n' = ls.length := by
  rw [h.text_eq, List.count_append, count_endedLines h.unbroken,
    List.count_eq_zero.mpr h.word_unbroken, Nat.add_zero]

theorem takeWhile_reverse (h : Splits text ls word) :
    text.reverse.takeWhile (· != '\n') = word.reverse := by
  rw [h.text_eq, List.reverse_append, takeWhile_unbroken h.word_unbroken]
  -- What is in front of the word ends in a line feed, if there is anything.
  cases ls using List.reverseRecOn with
  | nil => exact List.append_nil _
  | append_singleton ls line => simp [endedLines_concat]

theorem splitOn_eq (h : Splits text ls word) : text.splitOn '\n' = ls ++ [word] := by
  have hword : word.splitOn '\n' = [word] := by
    rw [List.splitOn_eq_splitOnP, List.splitOnP_eq_singleton (beq_of_unbroken h.word_unbroken)]
  rw [h.text_eq, splitOn_endedLines h.unbroken, hword]

/-- The offset behind the word is found by the number of lines before it and its length. -/
theorem offsetAt?_eq (h : Splits text ls word) (after : List Char) :
    offsetAt? (text ++ after) (ls.length + 1, word.length + 1) = some (byteLength text) := by
  obtain ⟨more, others, hfirst⟩ := splitOn_unbroken h.word_unbroken after
  have hlines : (text ++ after).splitOn '\n' = ls ++ (word ++ more) :: others := by
    rw [h.text_eq, List.append_assoc, splitOn_endedLines h.unbroken, hfirst]
  have hline : ((text ++ after).splitOn '\n')[ls.length]? = some (word ++ more) := by
    simp [hlines]
  have hstart : lineStart (text ++ after) ls.length = byteLength (endedLines ls) := by
    rw [lineStart, hlines, List.take_left]
  rw [offsetAt?, hline, hstart, h.text_eq, byteLength_append]
  simp

end Splits

namespace Cursor

theorem line_eq {c : Cursor} {ls : List (List Char)} {word : List Char}
    (h : Splits c.before.reverse ls word) : c.line = ls.length + 1 := by
  rw [line, ← List.count_reverse, h.count_eq]

theorem column_eq {c : Cursor} {ls : List (List Char)} {word : List Char}
    (h : Splits c.before.reverse ls word) : c.column = word.length + 1 := by
  have hword := h.takeWhile_reverse
  rw [List.reverse_reverse] at hword
  rw [column, hword, List.length_reverse]

/-- The line and the column of a cursor tell its offset. -/
theorem offsetAt?_line_column (c : Cursor) : offsetAt? c.text (c.line, c.column) = some c.offset := by
  obtain ⟨ls, word, hsplits⟩ := exists_splits c.before.reverse
  rw [line_eq hsplits, column_eq hsplits, c.offset_eq, ← byteLength_reverse]
  exact hsplits.offsetAt?_eq c.after

/-- Whatever is passed makes the line or, on the same line, the column greater. -/
theorem Passes.line_column_lt {c d : Cursor} {word : List Char} (h : c.Passes d word)
    (hword : word ≠ []) : c.line < d.line ∨ c.line = d.line ∧ c.column < d.column := by
  have hcount : d.line = c.line + word.count '\n' := by
    rw [line, line, h.before_eq, List.count_append, List.count_reverse]
    omega
  by_cases hbreak : '\n' ∈ word
  · have hpos := List.count_pos_iff.mpr hbreak
    exact .inl (by omega)
  · have hnone := List.count_eq_zero.mpr hbreak
    refine .inr ⟨by omega, ?_⟩
    have hcolumn : d.column = c.column + word.length := by
      rw [column, column, h.before_eq, takeWhile_unbroken hbreak, List.length_append,
        List.length_reverse]
      omega
    have hlength := List.length_pos_iff.mpr hword
    omega

end Cursor

/-- The lines of a text are ended by line feeds if one is put behind the text. -/
theorem endedLines_splitOn (text : List Char) :
    endedLines (text.splitOn '\n') = text ++ ['\n'] := by
  obtain ⟨ls, word, hsplits⟩ := exists_splits text
  rw [hsplits.splitOn_eq, endedLines_concat, ← hsplits.text_eq]

theorem unbroken_of_mem_splitOn {text line : List Char} (h : line ∈ text.splitOn '\n') :
    '\n' ∉ line := by
  obtain ⟨ls, word, hsplits⟩ := exists_splits text
  rw [hsplits.splitOn_eq] at h
  rcases List.mem_append.mp h with h | h
  · exact hsplits.unbroken line h
  · exact List.mem_singleton.mp h ▸ hsplits.word_unbroken

/-- A line and all that is in front of it are the beginning of the text. -/
theorem line_isPrefix {text line : List Char} {i : Nat}
    (h : (text.splitOn '\n')[i]? = some line) :
    endedLines ((text.splitOn '\n').take i) ++ line <+: text := by
  obtain ⟨hi, rfl⟩ := List.getElem?_eq_some_iff.mp h
  generalize hlines : text.splitOn '\n' = lines at hi
  have hended : text ++ ['\n'] =
      endedLines (lines.take i) ++ lines[i] ++ ('\n' :: endedLines (lines.drop (i + 1))) := by
    calc text ++ ['\n']
      _ = endedLines lines := hlines ▸ (endedLines_splitOn text).symm
      _ = endedLines (lines.take i ++ lines[i] :: lines.drop (i + 1)) := by
        rw [← List.drop_eq_getElem_cons hi, List.take_append_drop]
      _ = _ := by rw [endedLines_append, endedLines_cons, List.append_assoc]
  -- The line feed behind the text is none of those behind earlier lines.
  have hlength := congrArg List.length hended
  refine List.prefix_of_prefix_length_le ⟨_, hended.symm⟩ (List.prefix_append text _) ?_
  simp only [List.length_append, List.length_cons, List.length_nil] at hlength ⊢
  omega

/-- A line and column that a text reaches are those of a cursor. -/
theorem exists_cursor_of_offsetAt? {text : List Char} {line column offset : Nat}
    (h : offsetAt? text (line, column) = some offset) :
    ∃ c : Cursor, c.text = text ∧ c.offset = offset ∧ c.line = line ∧ c.column = column := by
  obtain _ | i := line
  · cases h
  obtain _ | k := column
  · cases h
  obtain ⟨word, hword, rfl⟩ := Option.map_eq_some_iff.mp h
  obtain ⟨hline, hk⟩ := Option.filter_eq_some_iff.mp hword
  let ls := (text.splitOn '\n').take i
  let before := endedLines ls ++ word.take k
  have hbefore : before <+: endedLines ls ++ word :=
    (List.prefix_append_right_inj _).mpr (List.take_prefix k word)
  obtain ⟨after, hafter⟩ := hbefore.trans (line_isPrefix hline)
  -- The cursor that divides the text behind these characters of the line.
  let c : Cursor := ⟨before.reverse, after, byteLength before, by simp⟩
  have hsplits : Splits c.before.reverse ls (word.take k) := {
    text_eq := List.reverse_reverse before
    unbroken := fun l hl => unbroken_of_mem_splitOn (List.mem_of_mem_take hl)
    word_unbroken := fun hmem =>
      unbroken_of_mem_splitOn (List.mem_of_getElem? hline) (List.mem_of_mem_take hmem) }
  refine ⟨c, ?_, ?_, ?_, ?_⟩
  · rw [Cursor.text, List.reverse_reverse, hafter]
  · exact byteLength_append (endedLines ls) (word.take k)
  · have hi : i < (text.splitOn '\n').length := (List.getElem?_eq_some_iff.mp hline).1
    rw [Cursor.line_eq hsplits, List.length_take_of_le (Nat.le_of_lt hi)]
  · have hk : k ≤ word.length := of_decide_eq_true hk
    rw [Cursor.column_eq hsplits, List.length_take_of_le hk]

/-- The cursor of an offset tells its line and column. -/
theorem Scanner.lineColumn?_offset {s : Scanner} {c : Cursor} (h : c.text = s.source) :
    s.lineColumn? c.offset = some (c.line, c.column) := by
  have hle := c.offset_le_byteLength
  have hfound := c.ofOffset?_offset
  rw [h] at hle hfound
  rw [lineColumn?, Nat.min_eq_left hle, hfound]
  rfl

/-- The lines and columns of offsets have the order of the offsets: what is further on in the
text is on a later line, or further to the right. A line and a column are told of an offset
just if they lead to it, and all that lies beyond the end has those of the end. So the line
and column of an error lead to its offset. -/
theorem lines_and_columns_tell_offsets (s : Scanner) :
    (∀ a b, Boundary s.source a → Boundary s.source b → a < b →
        ∃ line column line' column', s.lineColumn? a = some (line, column) ∧
          s.lineColumn? b = some (line', column') ∧
          (line < line' ∨ line = line' ∧ column < column')) ∧
      (∀ a, Boundary s.source a → ∃ place, s.lineColumn? a = some place ∧
        offsetAt? s.source place = some a) ∧
      (∀ a place, offsetAt? s.source place = some a → s.lineColumn? a = some place) ∧
      (∀ a, byteLength s.source < a →
        s.lineColumn? a = s.lineColumn? (byteLength s.source)) ∧
      ∀ (g : Grammar) (settings : Settings) (position line column : Nat) (expected : List String),
        g.evaluatePrefix settings s.source = .error (.noMatch position line column expected) →
        offsetAt? s.source (line, column) = some position := by
  refine ⟨?_, ?_, ?_, ?_, ?_⟩
  · intro a b ha hb hab
    obtain ⟨c, hc, rfl⟩ := Cursor.exists_of_boundary ha
    obtain ⟨d, hd, rfl⟩ := Cursor.exists_of_boundary hb
    have hahead : c.Ahead d := ⟨hd.trans hc.symm, Nat.le_of_lt hab⟩
    obtain ⟨word, hpasses⟩ := hahead.passes
    have hword : word ≠ [] := by
      rintro rfl
      have hlength := hpasses.offset_eq
      simp at hlength
      omega
    exact ⟨_, _, _, _, Scanner.lineColumn?_offset hc, Scanner.lineColumn?_offset hd,
      hpasses.line_column_lt hword⟩
  · intro a ha
    obtain ⟨c, hc, rfl⟩ := Cursor.exists_of_boundary ha
    exact ⟨_, Scanner.lineColumn?_offset hc, hc ▸ c.offsetAt?_line_column⟩
  · rintro a ⟨line, column⟩ h
    obtain ⟨c, hc, rfl, rfl, rfl⟩ := exists_cursor_of_offsetAt? h
    exact Scanner.lineColumn?_offset hc
  · intro a ha
    rw [Scanner.lineColumn?, Scanner.lineColumn?, Nat.min_eq_right (Nat.le_of_lt ha), Nat.min_self]
  · intro g settings position line column expected h
    obtain ⟨f, htells, herror⟩ := complaints_tell h rfl
    obtain ⟨rfl, rfl, rfl, -⟩ : position = f.cursor.offset ∧ line = f.cursor.line ∧
      column = f.cursor.column ∧ expected = f.expected := by simpa [Furthest.error] using herror
    exact htells.text_eq ▸ f.cursor.offsetAt?_line_column

/-- The letter é takes two bytes and one column. The offsets 2 and 3 are on the two sides of a
line feed. -/
theorem accented_lines_tell_offsets :
    let s := Scanner.ofText "ab\ncé\nx".toList none
    let g : Grammar := ⟨.sequence [.literal "ab", .literal "cé", .literal "y"], []⟩
    (Boundary s.source 2 ∧ Boundary s.source 3 ∧ ∃ line column line' column',
        s.lineColumn? 2 = some (line, column) ∧ s.lineColumn? 3 = some (line', column') ∧
          (line < line' ∨ line = line' ∧ column < column')) ∧
      (Boundary s.source 6 ∧ ∃ place, s.lineColumn? 6 = some place ∧
        offsetAt? s.source place = some 6) ∧
      (offsetAt? s.source (2, 3) = some 6 ∧ s.lineColumn? 6 = some (2, 3)) ∧
      s.lineColumn? 20 = s.lineColumn? 8 ∧
      g.evaluatePrefix {} s.source = .error (.noMatch 7 3 1 ["\"y\""]) ∧
        offsetAt? s.source (3, 1) = some 7 := by
  intro s g
  obtain ⟨horder, hback, hplace, hbeyond, herror⟩ := lines_and_columns_tell_offsets s
  have htwo : Boundary s.source 2 := by decide +kernel
  have hthree : Boundary s.source 3 := by decide +kernel
  have hsix : Boundary s.source 6 := by decide +kernel
  have hreached : offsetAt? s.source (2, 3) = some 6 := by decide +kernel
  have hrun : (g.evaluatePrefix {} s.source).map (fun _ => ()) =
      .error (.noMatch 7 3 1 ["\"y\""]) := by
    decide +kernel
  have hnoMatch : g.evaluatePrefix {} s.source = .error (.noMatch 7 3 1 ["\"y\""]) := by
    cases hresult : g.evaluatePrefix {} s.source with
    | ok r =>
      rw [hresult] at hrun
      cases hrun
    | error e =>
      rw [hresult] at hrun
      cases hrun
      rfl
  exact ⟨⟨htwo, hthree, horder 2 3 htwo hthree (by decide)⟩, ⟨hsix, hback 6 hsix⟩,
    ⟨hreached, hplace 6 _ hreached⟩, hbeyond 20 (by decide +kernel), hnoMatch,
    herror g {} 7 3 1 _ hnoMatch⟩

end Peg
