import Mathlib.Data.Nat.Digits.Defs
import Peg.Grammar.Numeral
import Peg.Proofs.Passage

/-!
Numerals of whole numbers.

The pattern for whole numbers finds the longest numeral at a place, with the digits of any
script, and reading accepts those numerals that have only the digits of ASCII and a value
of 64 bits with a sign.
-/
namespace Peg.Numeral

open Regex (Inst Thread Front digitChars)

/-- A sign or none, and behind it at least one decimal digit of any script. -/
def IsWhole (t : List Char) : Prop :=
  ∃ sign digits, t = sign ++ digits ∧ sign ∈ [[], ['+'], ['-']] ∧ digits ≠ [] ∧
    ∀ x ∈ digits, digitChars.contains x = true

/-- The longest numeral that a text begins with. -/
structure IsLongest (ahead t : List Char) : Prop where
  whole : IsWhole t
  begins : t <+: ahead
  longest : ∀ u, IsWhole u → u <+: ahead → u.length ≤ t.length

/-- The number that digits of ASCII stand for, the last of them for the ones. -/
def value (digits : List Char) : Nat :=
  Nat.ofDigits 10 (digits.reverse.map fun x => x.toNat - '0'.toNat)

/-- A numeral has digits of ASCII alone and stands for a number. -/
inductive Denotes : List Char → Int → Prop
  | unsigned (digits : List Char) (ascii : ∀ x ∈ digits, x.isDigit = true) :
      Denotes digits (value digits)
  | plus (digits : List Char) (ascii : ∀ x ∈ digits, x.isDigit = true) :
      Denotes ('+' :: digits) (value digits)
  | minus (digits : List Char) (ascii : ∀ x ∈ digits, x.isDigit = true) :
      Denotes ('-' :: digits) (-(value digits : Int))

/-- The two signs. -/
def signs : Unicode.CodeSet :=
  ⟨[(0x2B, 0x2B), (0x2D, 0x2D)]⟩

theorem contains_signs {x : Char} : signs.contains x = true ↔ x = '+' ∨ x = '-' := by
  have hcode (y : Char) : x = y ↔ x.toNat = y.toNat := ⟨congrArg Char.toNat, Char.toNat_inj.mp⟩
  rw [hcode '+', hcode '-']
  simp only [Unicode.CodeSet.contains, signs, Unicode.CodeSet.spansContain]
  have hplus : '+'.toNat = 0x2B := rfl
  have hminus : '-'.toNat = 0x2D := rfl
  rw [hplus, hminus]
  grind

theorem not_digit_of_sign {x : Char} (h : signs.contains x = true) :
    digitChars.contains x = false := by
  rcases contains_signs.mp h with rfl | rfl
  · decide +kernel
  · decide +kernel

/-- A text that begins with a numeral, taken apart: all digits that follow each other
belong to the numeral. -/
structure Split (ahead sign digits rest : List Char) : Prop where
  ahead_eq : ahead = sign ++ (digits ++ rest)
  sign_mem : sign ∈ [[], ['+'], ['-']]
  digits_ne : digits ≠ []
  digits_all : ∀ x ∈ digits, digitChars.contains x = true
  stops : ∀ x ∈ rest.head?, digitChars.contains x = false

/-- Digits are taken up to the first character that is none. -/
theorem exists_digits (text : List Char) : ∃ digits rest, text = digits ++ rest ∧
    (∀ x ∈ digits, digitChars.contains x = true) ∧
    ∀ x ∈ rest.head?, digitChars.contains x = false := by
  refine ⟨text.takeWhile digitChars.contains, text.dropWhile digitChars.contains,
    List.takeWhile_append_dropWhile.symm, fun x hx => List.mem_takeWhile_imp hx, ?_⟩
  intro x hx
  cases hdrop : text.dropWhile digitChars.contains with
  | nil => simp [hdrop] at hx
  | cons y rest =>
    obtain rfl : y = x := by simpa [hdrop] using hx
    have hhead := List.head_dropWhile_not (p := digitChars.contains) (l := text) (by simp [hdrop])
    simpa [hdrop] using hhead

/-- A text begins with a numeral, or with neither a digit nor a sign in front of one. -/
theorem split_or_stops (text : List Char) :
    (∃ sign digits rest, Split text sign digits rest) ∨
      (∀ x ∈ text.head?, digitChars.contains x = false) ∧
        ∀ x rest, text = x :: rest → signs.contains x = true →
          ∀ y ∈ rest.head?, digitChars.contains y = false := by
  obtain ⟨digits, rest, htext, hdigits, hstops⟩ := exists_digits text
  cases digits with
  | cons d digits =>
    exact .inl ⟨[], _, rest, htext, by simp, by simp, hdigits, hstops⟩
  | nil =>
    obtain rfl : text = rest := htext
    by_cases hsign : ∃ x rest', text = x :: rest' ∧ signs.contains x = true
    · obtain ⟨x, rest', rfl, hx⟩ := hsign
      obtain ⟨digits, rest, rfl, hdigits, hstops'⟩ := exists_digits rest'
      cases digits with
      | cons d digits =>
        have hmem : [x] ∈ [[], ['+'], ['-']] := by
          rcases contains_signs.mp hx with rfl | rfl <;> simp
        exact .inl ⟨[x], _, rest, rfl, hmem, by simp, hdigits, hstops'⟩
      | nil =>
        refine .inr ⟨hstops, ?_⟩
        rintro _ _ ⟨⟩ -
        exact hstops'
    · refine .inr ⟨hstops, ?_⟩
      intro x rest' htext' hx
      exact absurd ⟨x, rest', htext', hx⟩ hsign

section Machine

-- The program of the pattern: 0 splits into 1, which passes a sign, and 2, which passes a
-- digit, and behind it 3 splits into 2 and 4, which accepts. So a sign or a digit may be
-- passed at the start, a digit behind a sign, and behind a digit another one or none.

theorem front_start (c : Cursor) : Regex.front whole.program c [⟨0, [], []⟩] =
    ⟨[⟨1, [], []⟩, ⟨2, [], []⟩], none⟩ := rfl

theorem front_sign (c : Cursor) : Regex.front whole.program c [⟨2, [], []⟩] =
    ⟨[⟨2, [], []⟩], none⟩ := rfl

theorem front_digit (c : Cursor) : Regex.front whole.program c [⟨3, [], []⟩] =
    ⟨[⟨2, [], []⟩], some ⟨4, [], []⟩⟩ := rfl

theorem pass_sign (x : Char) : Thread.pass? whole.program x ⟨1, [], []⟩ =
    if signs.contains x then some ⟨2, [], []⟩ else none := rfl

theorem pass_digit (x : Char) : Thread.pass? whole.program x ⟨2, [], []⟩ =
    if digitChars.contains x then some ⟨3, [], []⟩ else none := rfl

/-- Behind a digit the match goes on to the last digit in a row. -/
theorem runThreads_digit {c : Cursor} {digits rest : List Char} (best : Option (Cursor × Thread))
    (hahead : c.after = digits ++ rest) (hdigits : ∀ x ∈ digits, digitChars.contains x = true)
    (hstops : ∀ x ∈ rest.head?, digitChars.contains x = false) :
    ∃ d, Regex.runThreads whole.program c [⟨3, [], []⟩] best (digits ++ rest) =
        some (d, ⟨4, [], []⟩) ∧ c.Passes d digits := by
  induction digits generalizing c best with
  | nil =>
    refine ⟨c, ?_, Cursor.Passes.refl c⟩
    cases rest with
    | nil => rw [List.nil_append, Regex.runThreads, front_digit, Front.better]; rfl
    | cons y rest =>
      have hy : digitChars.contains y = false := hstops y rfl
      simp [Regex.runThreads, front_digit, pass_digit, hy, Front.better]
  | cons x digits ih =>
    -- The match that ends here gives way to the one behind the digit.
    have hx : digitChars.contains x = true := hdigits x List.mem_cons_self
    have hrun : Regex.runThreads whole.program c [⟨3, [], []⟩] best (x :: (digits ++ rest)) =
        Regex.runThreads whole.program (c.step x (digits ++ rest)) [⟨3, [], []⟩]
          (some (c, ⟨4, [], []⟩)) (digits ++ rest) := by
      simp [Regex.runThreads, front_digit, pass_digit, hx, Front.better]
    obtain ⟨d, hd, hpasses⟩ := ih (c := c.step x (digits ++ rest)) (some (c, ⟨4, [], []⟩)) rfl
      fun y hy => hdigits y (List.mem_cons_of_mem x hy)
    have hstep : c.Passes (c.step x (digits ++ rest)) [x] := ⟨rfl, hahead⟩
    exact ⟨d, hrun.trans hd, hstep.trans hpasses⟩

/-- Where a digit comes, there is a match. -/
theorem runThreads_sign {c : Cursor} {digits rest : List Char} (hne : digits ≠ [])
    (hahead : c.after = digits ++ rest) (hdigits : ∀ x ∈ digits, digitChars.contains x = true)
    (hstops : ∀ x ∈ rest.head?, digitChars.contains x = false) :
    ∃ d, Regex.runThreads whole.program c [⟨2, [], []⟩] none (digits ++ rest) =
      some (d, ⟨4, [], []⟩) ∧ c.Passes d digits := by
  cases digits with
  | nil => exact absurd rfl hne
  | cons x digits =>
    have hx : digitChars.contains x = true := hdigits x List.mem_cons_self
    have hrun : Regex.runThreads whole.program c [⟨2, [], []⟩] none (x :: (digits ++ rest)) =
        Regex.runThreads whole.program (c.step x (digits ++ rest)) [⟨3, [], []⟩] none
          (digits ++ rest) := by
      simp [Regex.runThreads, front_sign, pass_digit, hx, Front.better]
    obtain ⟨d, hd, hpasses⟩ := runThreads_digit (c := c.step x (digits ++ rest)) none rfl
      (fun y hy => hdigits y (List.mem_cons_of_mem x hy)) hstops
    have hstep : c.Passes (c.step x (digits ++ rest)) [x] := ⟨rfl, hahead⟩
    exact ⟨d, hrun.trans hd, hstep.trans hpasses⟩

theorem runThreads_sign_eq_none (c : Cursor) {text : List Char}
    (h : ∀ x ∈ text.head?, digitChars.contains x = false) :
    Regex.runThreads whole.program c [⟨2, [], []⟩] none text = none := by
  cases text with
  | nil => rfl
  | cons x rest =>
    have hx : digitChars.contains x = false := h x rfl
    simp [Regex.runThreads, front_sign, pass_digit, hx, Front.better]

/-- What comes first decides where the machine goes on: a sign and a digit are never one
character. -/
theorem runThreads_start (c : Cursor) (x : Char) (rest : List Char) :
    Regex.runThreads whole.program c [⟨0, [], []⟩] none (x :: rest) =
      if signs.contains x then
        Regex.runThreads whole.program (c.step x rest) [⟨2, [], []⟩] none rest
      else Regex.runThreads whole.program c [⟨2, [], []⟩] none (x :: rest) := by
  by_cases hsign : signs.contains x = true
  · have hdigit := not_digit_of_sign hsign
    simp [Regex.runThreads, front_start, pass_sign, pass_digit, hsign, hdigit, Front.better]
  · simp [Regex.runThreads, front_start, front_sign, pass_sign, pass_digit, hsign, Front.better]

/-- Where a text begins with a numeral, the machine passes all of it. -/
theorem search_of_split {c : Cursor} {sign digits rest : List Char}
    (h : Split c.after sign digits rest) :
    ∃ d, Regex.search whole.program 0 c = some (d, ⟨4, [], []⟩) ∧
      c.Passes d (sign ++ digits) := by
  have hahead := h.ahead_eq
  unfold Regex.search
  rw [hahead]
  rcases List.mem_cons.mp h.sign_mem with rfl | hsign
  · obtain ⟨x, more, rfl⟩ := List.exists_cons_of_ne_nil h.digits_ne
    have hx : signs.contains x ≠ true := by
      intro hx
      have hdigit := h.digits_all x List.mem_cons_self
      rw [not_digit_of_sign hx] at hdigit
      cases hdigit
    obtain ⟨d, hd, hpasses⟩ := runThreads_sign h.digits_ne hahead h.digits_all h.stops
    refine ⟨d, ?_, hpasses⟩
    rw [← hd]
    exact (runThreads_start c x _).trans (if_neg hx)
  · obtain ⟨x, rfl, hx⟩ : ∃ x, sign = [x] ∧ signs.contains x = true := by
      obtain rfl | rfl : sign = ['+'] ∨ sign = ['-'] := by simpa using hsign
      · exact ⟨'+', rfl, by decide⟩
      · exact ⟨'-', rfl, by decide⟩
    obtain ⟨d, hd, hpasses⟩ := runThreads_sign (c := c.step x (digits ++ rest)) h.digits_ne rfl
      h.digits_all h.stops
    have hstep : c.Passes (c.step x (digits ++ rest)) [x] := ⟨rfl, hahead⟩
    refine ⟨d, ?_, hstep.trans hpasses⟩
    rw [← hd]
    exact (runThreads_start c x _).trans (if_pos hx)

/-- Where it does not, there is no match. -/
theorem search_of_stops {c : Cursor} (hdigit : ∀ x ∈ c.after.head?, digitChars.contains x = false)
    (hsign : ∀ x rest, c.after = x :: rest → signs.contains x = true →
      ∀ y ∈ rest.head?, digitChars.contains y = false) :
    Regex.search whole.program 0 c = none := by
  unfold Regex.search
  cases hahead : c.after with
  | nil => rfl
  | cons x rest =>
    refine (runThreads_start c x rest).trans ?_
    split
    · exact runThreads_sign_eq_none _ (hsign x rest hahead ‹_›)
    · rw [hahead] at hdigit
      exact runThreads_sign_eq_none c hdigit

end Machine

/-- A numeral begins with a digit, or with a sign and a digit. -/
theorem IsWhole.begins {t : List Char} (h : IsWhole t) :
    ∃ x more, digitChars.contains x = true ∧
      (t = x :: more ∨ ∃ y, signs.contains y = true ∧ t = y :: x :: more) := by
  obtain ⟨sign, digits, rfl, hsign, hne, hall⟩ := h
  obtain ⟨x, more, rfl⟩ := List.exists_cons_of_ne_nil hne
  refine ⟨x, more, hall x List.mem_cons_self, ?_⟩
  obtain rfl | rfl | rfl : sign = [] ∨ sign = ['+'] ∨ sign = ['-'] := by simpa using hsign
  · exact .inl rfl
  · exact .inr ⟨'+', by decide, rfl⟩
  · exact .inr ⟨'-', by decide, rfl⟩

/-- The digits behind a sign tell where it ends, so a text has one sign at most. -/
theorem sign_eq_of_append {sign sign' a b : List Char} {x y : Char}
    (hsign : sign ∈ [[], ['+'], ['-']]) (hsign' : sign' ∈ [[], ['+'], ['-']])
    (hx : digitChars.contains x = true) (hy : digitChars.contains y = true)
    (h : sign ++ x :: a = sign' ++ y :: b) : sign = sign' := by
  have hplus : digitChars.contains '+' = false := not_digit_of_sign (by decide)
  have hminus : digitChars.contains '-' = false := not_digit_of_sign (by decide)
  simp only [List.mem_cons, List.not_mem_nil, or_false] at hsign hsign'
  rcases hsign with rfl | rfl | rfl <;> rcases hsign' with rfl | rfl | rfl <;> grind

/-- A numeral that is split off with all its digits is the longest one. -/
theorem Split.isLongest {ahead sign digits rest : List Char} (h : Split ahead sign digits rest) :
    IsLongest ahead (sign ++ digits) := by
  refine ⟨⟨sign, digits, rfl, h.sign_mem, h.digits_ne, h.digits_all⟩, ?_, ?_⟩
  · exact ⟨rest, by rw [h.ahead_eq, List.append_assoc]⟩
  · rintro u ⟨sign', digits', rfl, hmem, hne, hall⟩ ⟨rest', hahead⟩
    have hboth : sign' ++ (digits' ++ rest') = sign ++ (digits ++ rest) := by
      rw [← h.ahead_eq, ← hahead, List.append_assoc]
    obtain rfl : sign' = sign := by
      obtain ⟨y, more', rfl⟩ := List.exists_cons_of_ne_nil hne
      obtain ⟨x, more, hdigits⟩ := List.exists_cons_of_ne_nil h.digits_ne
      rw [hdigits] at hboth
      refine sign_eq_of_append hmem h.sign_mem (hall y List.mem_cons_self) ?_ hboth
      exact h.digits_all x (hdigits ▸ List.mem_cons_self)
    rw [List.length_append, List.length_append]
    refine Nat.add_le_add_left ?_ _
    rcases List.append_eq_append_iff.mp (List.append_cancel_left hboth) with
      ⟨more, hdigits, -⟩ | ⟨more, hdigits, hrest⟩
    · rw [hdigits, List.length_append]
      exact Nat.le_add_right _ _
    · -- A digit more would be the first character behind the digits.
      cases more with
      | nil => simp [hdigits]
      | cons y more =>
        have hy : digitChars.contains y = true := hall y (by simp [hdigits])
        rw [h.stops y (by simp [hrest])] at hy
        cases hy

theorem IsLongest.unique {ahead t u : List Char} (ht : IsLongest ahead t)
    (hu : IsLongest ahead u) : t = u := by
  have hlength : t.length = u.length :=
    Nat.le_antisymm (hu.longest t ht.whole ht.begins) (ht.longest u hu.whole hu.begins)
  exact (List.prefix_of_prefix_length_le ht.begins hu.begins hlength.le).eq_of_length hlength

/-- A text that begins with a numeral can be split. -/
theorem IsLongest.split {ahead t : List Char} (h : IsLongest ahead t) :
    ∃ sign digits rest, Split ahead sign digits rest ∧ t = sign ++ digits := by
  rcases split_or_stops ahead with ⟨sign, digits, rest, hsplit⟩ | ⟨hdigit, hsign⟩
  · exact ⟨sign, digits, rest, hsplit, h.unique hsplit.isLongest⟩
  · -- The text would have to go on as no numeral does.
    obtain ⟨rest, rfl⟩ := h.begins
    obtain ⟨x, more, hx, rfl | ⟨y, hy, rfl⟩⟩ := h.whole.begins
    · rw [hdigit x rfl] at hx
      cases hx
    · rw [hsign y _ rfl hy x rfl] at hx
      cases hx

/-- The pattern for whole numbers passes the longest numeral. -/
theorem search_of_isLongest {c : Cursor} {t : List Char} (h : IsLongest c.after t) :
    ∃ d, Regex.search whole.program 0 c = some (d, ⟨4, [], []⟩) ∧ c.Passes d t := by
  obtain ⟨sign, digits, rest, hsplit, rfl⟩ := h.split
  exact search_of_split hsplit

/-- It matches nothing else. -/
theorem search_eq_none {c : Cursor} (h : ∀ t, ¬ IsLongest c.after t) :
    Regex.search whole.program 0 c = none := by
  rcases split_or_stops c.after with ⟨sign, digits, rest, hsplit⟩ | ⟨hdigit, hsign⟩
  · exact absurd hsplit.isLongest (h _)
  · exact search_of_stops hdigit hsign

section Reading

open Decimal

theorem ofDigits_eq_value (digits : List Char) : ofDigits digits = value digits := by
  have hgeneral : ∀ n, digits.foldl (fun n x => 10 * n + (x.toNat - '0'.toNat)) n =
      10 ^ digits.length * n + value digits := by
    induction digits with
    | nil => simp [value]
    | cons x digits ih =>
      intro n
      rw [List.foldl_cons, ih, value, value, List.reverse_cons, List.map_append,
        Nat.ofDigits_append, List.length_map, List.length_reverse, List.length_cons]
      simp
      ring
  rw [ofDigits, hgeneral]
  simp

theorem splitSign_of_ascii {digits : List Char} (h : ∀ x ∈ digits, x.isDigit = true) :
    splitSign digits = (false, digits) := by
  unfold splitSign
  split
  · exact absurd (h '-' List.mem_cons_self) (by decide)
  · exact absurd (h '+' List.mem_cons_self) (by decide)
  · rfl

/-- What a numeral denotes is told by its sign and its digits. -/
theorem denotes_iff {t : List Char} {n : Int} :
    Denotes t n ↔ (∀ x ∈ (splitSign t).2, x.isDigit = true) ∧
      n = if (splitSign t).1 then -(value (splitSign t).2 : Int) else value (splitSign t).2 := by
  constructor
  · rintro (⟨_, hascii⟩ | ⟨_, hascii⟩ | ⟨_, hascii⟩)
    · rw [splitSign_of_ascii hascii]
      exact ⟨hascii, rfl⟩
    · exact ⟨hascii, rfl⟩
    · exact ⟨hascii, rfl⟩
  · rintro ⟨hascii, rfl⟩
    have hsplit : splitSign t = ((splitSign t).1, (splitSign t).2) := rfl
    generalize (splitSign t).1 = negative at hsplit hascii ⊢
    generalize (splitSign t).2 = digits at hsplit hascii ⊢
    unfold splitSign at hsplit
    split at hsplit
    · cases hsplit
      exact .minus _ hascii
    · cases hsplit
      exact .plus _ hascii
    · cases hsplit
      exact .unsigned _ hascii

theorem splitSign_ne_nil {t : List Char} (h : IsWhole t) : (splitSign t).2 ≠ [] := by
  obtain ⟨x, more, hx, rfl | ⟨y, hy, rfl⟩⟩ := h.begins
  · unfold splitSign
    split
    · next heq =>
      cases heq
      rw [not_digit_of_sign (by decide)] at hx
      cases hx
    · next heq =>
      cases heq
      rw [not_digit_of_sign (by decide)] at hx
      cases hx
    · exact List.cons_ne_nil x more
  · rcases contains_signs.mp hy with rfl | rfl
    · exact List.cons_ne_nil x more
    · exact List.cons_ne_nil x more

/-- Of the numerals, reading takes those with digits of ASCII and a value of 64 bits. -/
theorem readInteger?_eq_some_iff {t : List Char} (h : IsWhole t) {n : Int} :
    readInteger? t = some n ↔ Denotes t n ∧ -2 ^ 63 ≤ n ∧ n ≤ 2 ^ 63 - 1 := by
  have hmin : Int64.minValue.toInt = -2 ^ 63 := rfl
  have hmax : Int64.maxValue.toInt = 2 ^ 63 - 1 := rfl
  have hne := splitSign_ne_nil h
  rw [denotes_iff]
  unfold readInteger?
  generalize splitSign t = parts at hne ⊢
  obtain ⟨negative, digits⟩ := parts
  simp only [hmin, hmax, ofDigits_eq_value, List.all_eq_true]
  generalize (if negative = true then -(value digits : Int) else value digits) = m
  by_cases hascii : ∀ x ∈ digits, x.isDigit = true
  · rw [if_pos ⟨hne, hascii⟩, and_assoc, and_iff_right hascii]
    split
    · next hrange =>
      rw [Option.some_inj]
      constructor
      · rintro rfl
        exact ⟨rfl, hrange⟩
      · rintro ⟨rfl, -⟩
        rfl
    · next hrange =>
      constructor
      · exact nofun
      · rintro ⟨rfl, hin⟩
        exact absurd hin hrange
  · rw [if_neg fun hboth => hascii hboth.2]
    simp [hascii]

end Reading

end Peg.Numeral
