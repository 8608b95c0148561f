import Mathlib.Data.List.Forall2
import Mathlib.Data.List.TakeWhile
import Mathlib.Data.Nat.Digits.Lemmas
import Peg.Proofs.Equality
import Peg.Proofs.JsonReader
import Peg.Value.Printer

/-!
A rendering without colour reads back as the value that it shows.

The two layouts of `format` and `json` put different blanks between the entries of a list
or object and escape different characters. The reader passes over all the blanks and
undoes all the escapes, so one account of a bracketed list of entries serves the three
renderings, and no two values share one.
-/
namespace Peg.JsonReader

open Value

/-! ### Reading one piece -/

/-- What follows a piece does not go on with a numeral. -/
def Ends (rest : List Char) : Prop :=
  ∀ c ∈ rest.head?, isNumeral c = false

/-- A reader of one kind of entry, by the depth that it goes down to. -/
abbrev Reader (α : Type) :=
  Nat → List Char → Option (α × List Char)

/-- A piece starts with a character that is neither blank nor a closing bracket. Its
length is depth enough to read it as `a`, whatever follows that does not go on with a
numeral. -/
structure ReadsAs {α : Type} (reader : Reader α) (piece : List Char) (a : α) : Prop where
  head : ∃ c ∈ piece.head?, isBlank c = false ∧ c ≠ ']' ∧ c ≠ '\x7d'
  read : ∀ depth rest, piece.length ≤ depth → Ends rest →
    reader depth (piece ++ rest) = some (a, rest)

theorem skipBlanks_append {gap : List Char} (h : ∀ c ∈ gap, isBlank c = true)
    (rest : List Char) : skipBlanks (gap ++ rest) = skipBlanks rest :=
  List.dropWhile_append_of_pos h

theorem skipBlanks_cons {c : Char} (hc : isBlank c = false) (rest : List Char) :
    skipBlanks (c :: rest) = c :: rest :=
  List.dropWhile_cons_of_neg (by simp [hc])

/-- Blanks before a piece are passed over. -/
theorem ReadsAs.skipBlanks_eq {α : Type} {reader : Reader α} {piece : List Char} {a : α}
    (h : ReadsAs reader piece a) (rest : List Char) : skipBlanks (piece ++ rest) = piece ++ rest := by
  obtain ⟨c, hc, hblank, -⟩ := h.head
  obtain ⟨tail, rfl⟩ := List.head?_eq_some_iff.mp hc
  exact skipBlanks_cons hblank _

/-! ### Texts -/

/-- Every character stands for itself, where that may be, or is escaped. -/
def Readable (escape : Char → List Char) : Prop :=
  ∀ c, (escape c = [c] ∧ c ≠ '"' ∧ c ≠ '\\' ∧ 0x20 ≤ c.toNat) ∨
    ∃ code, escape c = '\\' :: code ∧ ∀ rest, escaped? (code ++ rest) = some (c, rest)

theorem unit?_append {cs behind : List Char} {n : Nat} (h : unit? cs = some (n, behind))
    (rest : List Char) : unit? (cs ++ rest) = some (n, behind ++ rest) := by
  unfold unit? at h
  split at h
  · next a b c d tail =>
    simp only [bind, Option.bind_eq_some_iff, Option.some.injEq, Prod.mk.injEq] at h
    obtain ⟨a', ha, b', hb, c', hc, d', hd, hn, rfl⟩ := h
    simp only [List.cons_append, unit?, ha, hb, hc, hd, bind, Option.bind_some, hn]
  · cases h

/-- The control characters are read by their numbers. -/
theorem escaped?_numbered {c : Char} (h : isControl c = true) :
    ∃ code, numbered c = '\\' :: code ∧ ∀ rest, escaped? (code ++ rest) = some (c, rest) := by
  have hall : ∀ n < 0xA0,
      unit? (List.replicate (4 - (hexDigits n).length) '0' ++ hexDigits n) = some (n, []) := by
    decide +kernel
  have hlt := toNat_lt_of_isControl h
  refine ⟨_, rfl, fun rest => ?_⟩
  have hunit := unit?_append (hall c.toNat hlt) rest
  simp only [List.cons_append, escaped?, numbered?, hunit, bind, Option.bind_some]
  rw [if_neg (by omega), if_neg (by omega), Char.ofNat_toNat, List.nil_append]

theorem readable_escape : Readable escape := by
  intro c
  unfold escape
  split
  case h_6 hquote hslash _ _ _ =>
    split
    · next h => exact .inr (escaped?_numbered h)
    · next h =>
      simp only [isControl, Bool.not_eq_true, Bool.or_eq_false_iff, decide_eq_false_iff_not,
        Nat.not_lt] at h
      exact .inl ⟨rfl, hquote, hslash, h.1⟩
  all_goals exact .inr ⟨_, rfl, fun _ => rfl⟩

theorem readable_escapeJson : Readable escapeJson := by
  intro c
  unfold escapeJson
  split
  case h_8 hquote hslash _ _ _ _ _ =>
    split
    · next h => exact .inr (escaped?_numbered (by simp [isControl, h]))
    · next h => exact .inl ⟨rfl, hquote, hslash, Nat.not_lt.mp h⟩
  all_goals exact .inr ⟨_, rfl, fun _ => rfl⟩

section Texts

variable {escape : Char → List Char} (h : Readable escape)
include h

theorem characters?_flatMap (cs rest : List Char) :
    ∀ fuel, (cs.flatMap escape).length < fuel →
      characters? fuel (cs.flatMap escape ++ '"' :: rest) = some (cs, rest) := by
  induction cs with
  | nil =>
    intro fuel hfuel
    obtain ⟨fuel, rfl⟩ := Nat.exists_eq_succ_of_ne_zero (Nat.ne_of_gt hfuel)
    rfl
  | cons c cs ih =>
    intro fuel hfuel
    obtain ⟨fuel, rfl⟩ := Nat.exists_eq_succ_of_ne_zero (Nat.ne_zero_of_lt hfuel)
    simp only [List.flatMap_cons, List.append_assoc, List.length_append] at hfuel ⊢
    rcases h c with ⟨hself, hquote, hslash, hcontrol⟩ | ⟨code, hcode, hread⟩
    · rw [hself, List.length_singleton] at hfuel
      simp only [hself, List.singleton_append, characters?, if_neg hquote, if_neg hslash,
        if_neg (Nat.not_lt.mpr hcontrol), ih fuel (by omega), bind, Option.bind_some]
    · rw [hcode, List.length_cons] at hfuel
      have hnotQuote : '\\' ≠ '"' := by decide
      simp only [hcode, List.cons_append, characters?, if_neg hnotQuote, if_true, hread,
        ih fuel (by omega), bind, Option.bind_some]

theorem quoted?_quote (s : String) (rest : List Char) :
    quoted? (quote escape s ++ rest) = some (s, rest) := by
  have hread := characters?_flatMap h s.toList rest
    (s.toList.flatMap escape ++ '"' :: rest).length (by simp)
  simp only [quote, List.cons_append, List.append_assoc, List.nil_append, quoted?, hread,
    bind, Option.bind_some, String.ofList_toList]

end Texts

/-! ### Numbers -/

theorem isNumeral_of_isDigit {c : Char} (h : c.isDigit = true) : isNumeral c = true := by
  simp only [isNumeral, h, Bool.true_or]

theorem isDigit_of_mem {m : Nat} {c : Char} (h : c ∈ Nat.toDigits 10 m) : c.isDigit = true :=
  Nat.isDigit_of_mem_toDigits (by decide) (by decide) h

/-- A positive number is written without a zero in front. -/
theorem head?_toDigits {m : Nat} (hm : 0 < m) : (Nat.toDigits 10 m).head? ≠ some '0' := by
  induction m using Nat.strongRecOn with
  | ind m ih =>
    by_cases hdigit : m < 10
    · interval_cases m <;> decide
    · rw [Nat.toDigits_of_base_le (by decide) (Nat.not_lt.mp hdigit),
        List.head?_append_of_ne_nil _ Nat.toDigits_ne_nil]
      exact ih (m / 10) (by omega) (by omega)

theorem isWhole_toDigits (m : Nat) : isWhole (Nat.toDigits 10 m) = true := by
  rcases Nat.eq_zero_or_pos m with rfl | hm
  -- Zero is the only number whose digits begin with a zero.
  · rfl
  · have hhead := head?_toDigits hm
    unfold isWhole
    split
    · next hnil => exact absurd hnil Nat.toDigits_ne_nil
    · rfl
    · next d _ _ heq =>
      rw [heq, List.head?_cons] at hhead
      exact bne_iff_ne.mpr fun h => hhead (congrArg some h)

theorem numeral?_decimal (n : Int) : numeral? (decimal n) = some (.integer n) := by
  have hsplit : Decimal.splitDigits (Nat.toDigits 10 n.natAbs) = (Nat.toDigits 10 n.natAbs, []) :=
    Prod.ext (List.takeWhile_eq_self_iff.mpr fun _ => isDigit_of_mem)
      (List.dropWhile_eq_nil_iff.mpr fun _ => isDigit_of_mem)
  have hvalue : Decimal.ofDigits (Nat.toDigits 10 n.natAbs) = n.natAbs :=
    Nat.ofDigitChars_toDigits (by decide) (by decide)
  have hunsigned : unsigned (decimal n) = (decide (n < 0), Nat.toDigits 10 n.natAbs) := by
    unfold decimal
    split
    · next hneg => simp only [unsigned, hneg, decide_true]
    · next hneg =>
      unfold unsigned
      split
      · next heq =>
        have hdigit := isDigit_of_mem (heq ▸ List.mem_cons_self)
        exact absurd hdigit (by decide)
      · simp only [hneg, decide_false]
  simp only [numeral?, hunsigned, hsplit, isWhole_toDigits, hvalue, Bool.true_eq_false, if_false,
    decide_eq_true_eq]
  congr 2
  split <;> omega

/-- Every character of a whole number may be in a numeral. -/
theorem isNumeral_of_mem_decimal {n : Int} {c : Char} (h : c ∈ decimal n) :
    isNumeral c = true := by
  unfold decimal at h
  split at h
  · rcases List.mem_cons.mp h with rfl | hdigit
    · decide
    · exact isNumeral_of_isDigit (isDigit_of_mem hdigit)
  · exact isNumeral_of_isDigit (isDigit_of_mem h)

theorem number?_decimal (n : Int) {rest : List Char} (h : Ends rest) :
    number? (decimal n ++ rest) = some (.integer n, rest) := by
  -- The numeral is as long as it can be, and what follows does not make it longer.
  have htake : rest.takeWhile isNumeral = [] := by
    cases rest with
    | nil => rfl
    | cons c rest => exact List.takeWhile_cons_of_neg (by simp [h c rfl])
  have hdrop : rest.dropWhile isNumeral = rest := by
    cases rest with
    | nil => rfl
    | cons c rest => exact List.dropWhile_cons_of_neg (by simp [h c rfl])
  have hall : ∀ c ∈ decimal n, isNumeral c = true := fun _ => isNumeral_of_mem_decimal
  unfold number?
  rw [List.takeWhile_append_of_pos hall, List.dropWhile_append_of_pos hall, htake, hdrop,
    List.append_nil, numeral?_decimal, Option.map_some]

/-! ### Lists and objects -/

/-- The blanks in a list or object: before the first entry, behind every comma, and
before the closing bracket. -/
structure Spacing where
  front : List Char
  gap : List Char
  back : List Char
  front_blank : ∀ c ∈ front, isBlank c = true
  gap_blank : ∀ c ∈ gap, isBlank c = true
  back_blank : ∀ c ∈ back, isBlank c = true

namespace Spacing

variable (sp : Spacing)

/-- Every entry after the first one, each behind a comma and its blanks. -/
def further (entries : List (List Char)) : List Char :=
  entries.flatMap fun e => ',' :: (sp.gap ++ e)

/-- Entries up to the closing bracket. -/
def inside (closing : Char) : List (List Char) → List Char
  | [] => [closing]
  | e :: es => sp.front ++ (e ++ (sp.further es ++ (sp.back ++ [closing])))

theorem length_le_further (es : List (List Char)) : es.length ≤ (sp.further es).length := by
  induction es with
  | nil => exact Nat.zero_le _
  | cons e es ih =>
    simp only [further, List.flatMap_cons, List.length_append, List.length_cons] at ih ⊢
    omega

theorem length_lt_inside {sp : Spacing} {closing : Char} {es : List (List Char)} {e : List Char} (he : e ∈ es) :
    e.length < (sp.inside closing es).length := by
  cases es with
  | nil => cases he
  | cons e' es =>
    simp only [inside, List.length_append, List.length_singleton]
    rcases List.mem_cons.mp he with rfl | he
    · omega
    · obtain ⟨before, after, rfl⟩ := List.append_of_mem he
      simp only [further, List.flatMap_append, List.flatMap_cons, List.length_append,
        List.length_cons]
      omega

end Spacing

/-- The two closing brackets. -/
def IsClosing (c : Char) : Prop :=
  c = ']' ∨ c = '\x7d'

theorem IsClosing.plain {c : Char} (h : IsClosing c) :
    isBlank c = false ∧ isNumeral c = false ∧ c ≠ ',' := by
  rcases h with rfl | rfl <;> decide

theorem isNumeral_of_isBlank {c : Char} (h : isBlank c = true) : isNumeral c = false := by
  simp only [isBlank, Bool.or_eq_true, beq_iff_eq] at h
  rcases h with ((rfl | rfl) | rfl) | rfl <;> rfl

theorem Ends.of_blanks {gap : List Char} (h : ∀ c ∈ gap, isBlank c = true) {c : Char}
    (hc : isNumeral c = false) (rest : List Char) : Ends (gap ++ c :: rest) := by
  cases gap with
  | nil =>
    rintro _ ⟨⟩
    exact hc
  | cons d gap =>
    rintro _ ⟨⟩
    exact isNumeral_of_isBlank (h d List.mem_cons_self)

section Entries

variable {α : Type} {reader : Reader α} {closing : Char} {depth : Nat}

/-- Entries read one by one. The induction is on the entries behind the first one, whose
blanks are those of the opening bracket or of a comma. -/
theorem entries?_inside (sp : Spacing) (hclosing : IsClosing closing) (rest : List Char)
    {es : List (List Char)} {as : List α} (hes : List.Forall₂ (ReadsAs reader) es as)
    (hdepth : ∀ e ∈ es, e.length ≤ depth) :
    ∀ {e : List Char} {a : α} {gap : List Char}, ReadsAs reader e a → e.length ≤ depth →
      (∀ c ∈ gap, isBlank c = true) → ∀ fuel, es.length < fuel →
      entries? (reader depth) closing fuel
        (gap ++ (e ++ (sp.further es ++ (sp.back ++ closing :: rest)))) = some (a :: as, rest) := by
  obtain ⟨hblank, hnumeral, hcomma⟩ := hclosing.plain
  induction hes with
  | nil =>
    -- Behind the last entry there are blanks and the closing bracket.
    intro e a gap he hlen hgap fuel hfuel
    obtain ⟨fuel, rfl⟩ := Nat.exists_eq_succ_of_ne_zero (Nat.ne_zero_of_lt hfuel)
    have hread := he.read depth _ hlen (Ends.of_blanks sp.back_blank hnumeral rest)
    simp only [Spacing.further, List.flatMap_nil, List.nil_append, entries?,
      skipBlanks_append hgap, he.skipBlanks_eq, hread, skipBlanks_append sp.back_blank,
      skipBlanks_cons hblank, bind, Option.bind_some, if_true]
  | @cons e' a' es as he' _ ih =>
    -- The comma ends the entry, and the blanks behind it belong to the next one.
    intro e a gap he hlen hgap fuel hfuel
    obtain ⟨fuel, rfl⟩ := Nat.exists_eq_succ_of_ne_zero (Nat.ne_zero_of_lt hfuel)
    obtain ⟨hlen', hdepth'⟩ := List.forall_mem_cons.mp hdepth
    have hread (behind : List Char) := he.read depth (',' :: behind) hlen fun _ hc => by
      cases hc
      rfl
    have hrest := ih hdepth' he' hlen' sp.gap_blank fuel (by simpa using hfuel)
    simp only [Spacing.further] at hrest
    simp only [Spacing.further, List.flatMap_cons, List.cons_append, List.append_assoc, entries?,
      skipBlanks_append hgap, he.skipBlanks_eq, hread, skipBlanks_cons (c := ',') (by decide),
      if_neg (Ne.symm hcomma), hrest, bind, Option.bind_some, if_true]

/-- What stands behind an opening bracket is read entry by entry. -/
theorem group?_inside {sp : Spacing} (hclosing : IsClosing closing) (rest : List Char)
    {es : List (List Char)} {as : List α} (hes : List.Forall₂ (ReadsAs reader) es as)
    (hdepth : (sp.inside closing es).length ≤ depth + 1) :
    group? (reader depth) closing (sp.inside closing es ++ rest) = some (as, rest) := by
  have hlen : ∀ e ∈ es, e.length ≤ depth := fun e he =>
    Nat.le_of_lt_succ (Nat.lt_of_lt_of_le (Spacing.length_lt_inside he) hdepth)
  cases hes with
  | nil =>
    simp only [Spacing.inside, List.singleton_append, group?, skipBlanks_cons hclosing.plain.1,
      if_true]
  | @cons e a es as he hes =>
    obtain ⟨hfirst, hothers⟩ := List.forall_mem_cons.mp hlen
    have hall := entries?_inside sp hclosing rest hes hothers he hfirst sp.front_blank
    obtain ⟨c, hc, hblank, hlist, hobject⟩ := he.head
    obtain ⟨tail, rfl⟩ := List.head?_eq_some_iff.mp hc
    -- An entry does not begin with the bracket, so the group is not taken for an empty one.
    have hne : c ≠ closing := hclosing.elim (fun h => h ▸ hlist) (fun h => h ▸ hobject)
    simp only [Spacing.inside, List.append_assoc, List.cons_append, List.nil_append, group?,
      skipBlanks_append sp.front_blank, skipBlanks_cons hblank, if_neg hne]
    apply hall
    have hfew := sp.length_le_further es
    simp only [List.length_append, List.length_cons]
    omega

end Entries

/-! ### Values -/

/-- A numeral is read as one. -/
theorem value?_of_isNumeral {c : Char} (h : isNumeral c = true) (depth : Nat) (rest : List Char) :
    value? (depth + 1) (c :: rest) = number? (c :: rest) := by
  have hother {d : Char} (hd : isNumeral d = false) : c ≠ d := fun heq => by
    rw [heq, hd] at h
    cases h
  unfold value?
  split
  case h_5 => rfl
  -- The other kinds of values begin with a character that no numeral has.
  all_goals
    next heq => exact absurd (List.cons.inj heq).1 (hother (by decide))

theorem readsAs_null : ReadsAs value? "null".toList .null where
  head := ⟨'n', rfl, by decide⟩
  read depth rest hdepth _ := by
    obtain ⟨depth, rfl⟩ := Nat.exists_eq_succ_of_ne_zero (Nat.ne_zero_of_lt hdepth)
    rfl

theorem readsAs_text {escape : Char → List Char} (h : Readable escape) (s : String) :
    ReadsAs value? (quote escape s) (.text s) where
  head := ⟨'"', rfl, by decide⟩
  read depth rest hdepth _ := by
    obtain ⟨depth, rfl⟩ := Nat.exists_eq_succ_of_ne_zero (Nat.ne_zero_of_lt hdepth)
    have hread := quoted?_quote h s rest
    simp only [quote, List.cons_append] at hread ⊢
    simp only [value?, hread, Option.map_some]

theorem readsAs_integer (n : Int) : ReadsAs value? (decimal n) (.integer n) := by
  obtain ⟨c, tail, heq⟩ : ∃ c tail, decimal n = c :: tail := by
    apply List.exists_cons_of_ne_nil
    unfold decimal
    split
    · exact List.cons_ne_nil _ _
    · exact Nat.toDigits_ne_nil
  have hc : isNumeral c = true := isNumeral_of_mem_decimal (heq ▸ List.mem_cons_self)
  refine ⟨⟨c, heq ▸ rfl, ?_⟩, fun depth rest hdepth hends => ?_⟩
  · refine ⟨?_, ?_, ?_⟩
    · by_contra hblank
      rw [isNumeral_of_isBlank (by simpa using hblank)] at hc
      cases hc
    · rintro rfl
      cases hc
    · rintro rfl
      cases hc
  · obtain ⟨depth, rfl⟩ := Nat.exists_eq_succ_of_ne_zero
      (Nat.ne_zero_of_lt (heq ▸ hdepth : (c :: tail).length ≤ depth))
    have hread := number?_decimal n hends
    rw [heq, List.cons_append] at hread ⊢
    rw [value?_of_isNumeral hc, hread]

theorem readsAs_list {sp : Spacing} {es : List (List Char)} {vs : List Value}
    (h : List.Forall₂ (ReadsAs value?) es vs) :
    ReadsAs value? ('[' :: sp.inside ']' es) (.list vs) where
  head := ⟨'[', rfl, by decide⟩
  read depth rest hdepth _ := by
    obtain ⟨depth, rfl⟩ := Nat.exists_eq_succ_of_ne_zero (Nat.ne_zero_of_lt hdepth)
    have hread := group?_inside (.inl rfl) rest h
      (Nat.le_succ_of_le (Nat.le_of_succ_le_succ hdepth))
    simp only [List.cons_append, value?, hread, Option.map_some]

theorem readsAs_object {sp : Spacing} {es : List (List Char)} {fields : List (String × Value)}
    (h : List.Forall₂ (ReadsAs fun depth => pair? (value? depth)) es fields) :
    ReadsAs value? ('\x7b' :: sp.inside '\x7d' es) (.object fields) where
  head := ⟨'\x7b', rfl, by decide⟩
  read depth rest hdepth _ := by
    obtain ⟨depth, rfl⟩ := Nat.exists_eq_succ_of_ne_zero (Nat.ne_zero_of_lt hdepth)
    have hread := group?_inside (.inr rfl) rest h
      (Nat.le_succ_of_le (Nat.le_of_succ_le_succ hdepth))
    simp only [List.cons_append, value?, hread, Option.map_some]

/-- A field is a name in quotes, a colon, blanks and a value. -/
theorem readsAs_pair {escape : Char → List Char} (h : Readable escape) (k : String)
    {gap : List Char} (hgap : ∀ c ∈ gap, isBlank c = true) {piece : List Char} {v : Value}
    (hv : ReadsAs value? piece v) :
    ReadsAs (fun depth => pair? (value? depth)) (quote escape k ++ ':' :: (gap ++ piece)) (k, v)
    where
  head := ⟨'"', rfl, by decide⟩
  read depth rest hdepth hends := by
    have hlen : piece.length ≤ depth := by
      simp only [List.length_append, List.length_cons] at hdepth
      omega
    have hread := hv.read depth rest hlen hends
    simp only [pair?, List.append_assoc, List.cons_append, quoted?_quote h,
      skipBlanks_cons (c := ':') (by decide), skipBlanks_append hgap, hv.skipBlanks_eq, hread, bind,
      Option.bind_some]

end Peg.JsonReader

namespace Peg.Value

open JsonReader

/-! ### The three renderings -/

variable (pretty : Bool)

theorem Style.paint_plain (text : List Char) : Palette.plain.paint "" text = text :=
  if_pos rfl

theorem Style.dim_plain (text : List Char) : Style.dim ⟨pretty, .plain⟩ text = text :=
  Style.paint_plain text

theorem Style.green_plain (text : List Char) : Style.green ⟨pretty, .plain⟩ text = text :=
  Style.paint_plain text

theorem Style.blue_plain (text : List Char) : Style.blue ⟨pretty, .plain⟩ text = text :=
  Style.paint_plain text

theorem Style.lead_blank (indent : Nat) :
    ∀ c ∈ Style.lead ⟨pretty, .plain⟩ indent, isBlank c = true := by
  intro c hc
  cases pretty with
  | false => cases hc
  | true =>
    rcases List.mem_cons.mp hc with rfl | hspace
    · rfl
    · rw [List.eq_of_mem_replicate hspace]
      rfl

/-- The blanks that `format` puts into a list or object at this indentation. -/
def Style.spacing (indent : Nat) : Spacing where
  front := Style.lead ⟨pretty, .plain⟩ (indent + 2)
  gap := if pretty then Style.lead ⟨pretty, .plain⟩ (indent + 2) else [' ']
  back := Style.lead ⟨pretty, .plain⟩ indent
  front_blank := Style.lead_blank pretty _
  gap_blank := by
    cases pretty with
    | true => exact Style.lead_blank true _
    | false => exact List.forall_mem_singleton.mpr rfl
  back_blank := Style.lead_blank pretty _

theorem Style.group_plain (opening closing : Char) (indent : Nat) (es : List (List Char)) :
    Style.group ⟨pretty, .plain⟩ opening closing indent es =
      opening :: (Style.spacing pretty indent).inside closing es := by
  cases es with
  | nil => simp only [Style.group, Style.dim_plain, Spacing.inside, List.singleton_append]
  | cons e es =>
    simp only [Style.group, Style.dim_plain, Style.further, Spacing.inside, Spacing.further, Style.spacing,
      List.append_assoc, List.cons_append, List.nil_append]

/-- The spacing of `json`, which has no blanks. -/
def tight : Spacing where
  front := []
  gap := []
  back := []
  front_blank := by simp
  gap_blank := by simp
  back_blank := by simp

theorem commas_append (closing : Char) (es : List (List Char)) :
    commas es ++ [closing] = tight.inside closing es := by
  cases es with
  | nil => rfl
  | cons e es =>
    have hall : commas (e :: es) = e ++ tight.further es := by
      induction es generalizing e with
      | nil => simp [commas, Spacing.further]
      | cons e' es ih =>
        have hnext := ih e'
        simp only [commas, Spacing.further] at hnext ⊢
        rw [List.intercalate_cons_cons, hnext]
        simp [tight]
    rw [hall]
    simp [Spacing.inside, tight]

mutual

/-- What `format` writes reads back. -/
theorem chars_readsAs (indent : Nat) : ∀ v : Value, v.floatFree = true →
    ReadsAs value? (v.chars ⟨pretty, .plain⟩ indent) v
  | null, _ => by
    rw [chars, Style.dim_plain]
    exact readsAs_null
  | text s, _ => by
    rw [chars, Style.green_plain]
    exact readsAs_text readable_escape s
  | integer n, _ => readsAs_integer n
  | float _, h => nomatch h
  | list items, h => by
    rw [chars, Style.group_plain]
    exact readsAs_list (itemChars_readsAs (indent + 2) items h)
  | object fields, h => by
    rw [chars, Style.group_plain]
    exact readsAs_object (fieldChars_readsAs (indent + 2) fields h)

theorem itemChars_readsAs (indent : Nat) : ∀ items : List Value, floatFreeItems items = true →
    List.Forall₂ (ReadsAs value?) (itemChars ⟨pretty, .plain⟩ indent items) items
  | [], _ => .nil
  | v :: rest, h =>
    have hboth := Bool.and_eq_true_iff.mp h
    .cons (chars_readsAs indent v hboth.1) (itemChars_readsAs indent rest hboth.2)

theorem fieldChars_readsAs (indent : Nat) : ∀ fields : List (String × Value),
    floatFreeFields fields = true →
    List.Forall₂ (ReadsAs fun depth => pair? (value? depth))
      (fieldChars ⟨pretty, .plain⟩ indent fields) fields
  | [], _ => .nil
  | (k, v) :: rest, h => by
    have hboth := Bool.and_eq_true_iff.mp h
    have hgap : ∀ c ∈ [' '], isBlank c = true := List.forall_mem_singleton.mpr rfl
    have hfield := readsAs_pair readable_escape k hgap (chars_readsAs indent v hboth.1)
    refine .cons ?_ (fieldChars_readsAs indent rest hboth.2)
    rw [Style.blue_plain, Style.dim_plain, List.append_assoc]
    exact hfield

end

mutual

/-- What `json` writes reads back. -/
theorem jsonChars_readsAs : ∀ v : Value, v.floatFree = true → ReadsAs value? v.jsonChars v
  | null, _ => readsAs_null
  | text s, _ => readsAs_text readable_escapeJson s
  | integer n, _ => readsAs_integer n
  | float _, h => nomatch h
  | list items, h => by
    rw [jsonChars, commas_append]
    exact readsAs_list (jsonItems_readsAs items h)
  | object fields, h => by
    rw [jsonChars, commas_append]
    exact readsAs_object (jsonFields_readsAs fields h)

theorem jsonItems_readsAs : ∀ items : List Value, floatFreeItems items = true →
    List.Forall₂ (ReadsAs value?) (jsonItems items) items
  | [], _ => .nil
  | v :: rest, h =>
    have hboth := Bool.and_eq_true_iff.mp h
    .cons (jsonChars_readsAs v hboth.1) (jsonItems_readsAs rest hboth.2)

theorem jsonFields_readsAs : ∀ fields : List (String × Value), floatFreeFields fields = true →
    List.Forall₂ (ReadsAs fun depth => pair? (value? depth)) (jsonFields fields) fields
  | [], _ => .nil
  | (k, v) :: rest, h =>
    have hboth := Bool.and_eq_true_iff.mp h
    .cons (readsAs_pair readable_escapeJson k tight.gap_blank (jsonChars_readsAs v hboth.1))
      (jsonFields_readsAs rest hboth.2)

end

theorem read?_of_readsAs {cs : List Char} {v : Value} (h : ReadsAs value? cs v) :
    read? (String.ofList cs) = some v := by
  have hfirst : skipBlanks cs = cs := by simpa using h.skipBlanks_eq []
  have hread : value? cs.length cs = some (v, []) := by
    simpa using h.read cs.length [] (Nat.le_refl _) (by rintro _ ⟨⟩)
  simp only [read?, String.length_ofList, String.toList_ofList, hfirst, hread, bind,
    Option.bind_some]
  rfl

/-- The ways to write a value without colour: in one line, indented, and as JSON. -/
def renderings (v : Value) : List String :=
  [v.format false .plain, v.format true .plain, v.json]

/-- Every rendering of a value without doubles reads back as the value. So no other such
value shares one of them, and the three renderings of a value stand for the same tree. -/
theorem renderings_read_back (v : Value) (hv : v.floatFree = true) :
    (∀ pretty, read? (v.format pretty .plain) = some v) ∧ read? v.json = some v ∧
      ∀ w : Value, w.floatFree = true → ∀ s ∈ v.renderings, s ∈ w.renderings → v = w := by
  have hformat {v : Value} (hv : v.floatFree = true) (pretty : Bool) :
      read? (v.format pretty .plain) = some v :=
    read?_of_readsAs (chars_readsAs pretty 0 v hv)
  have hjson {v : Value} (hv : v.floatFree = true) : read? v.json = some v :=
    read?_of_readsAs (jsonChars_readsAs v hv)
  -- A text that two values share is read as either of them, and reading has one result.
  have hall {v : Value} (hv : v.floatFree = true) : ∀ s ∈ v.renderings, read? s = some v := by
    simp only [renderings, List.forall_mem_cons]
    exact ⟨hformat hv false, hformat hv true, hjson hv, by simp⟩
  refine ⟨hformat hv, hjson hv, fun w hw s hs hs' => ?_⟩
  exact Option.some.inj ((hall hv s hs).symm.trans (hall hw s hs'))

/-- Two fields of one name, with a character that only `format` escapes. -/
theorem repeated_names_read_back :
    let v : Value := object [("a", text "\x7f"), ("a", list [integer (-10), null])]
    v.floatFree = true ∧
      read? "\x7b\"a\": \"\\u007f\", \"a\": [-10, null]\x7d" = some v ∧
      read? "\x7b\"a\":\"\x7f\",\"a\":[-10,null]\x7d" = some v := by
  intro v
  have hfree : v.floatFree = true := by decide
  obtain ⟨hformat, hjson, -⟩ := renderings_read_back v hfree
  have hline : v.format false .plain = "\x7b\"a\": \"\\u007f\", \"a\": [-10, null]\x7d" := by
    decide +kernel
  have hcompact : v.json = "\x7b\"a\":\"\x7f\",\"a\":[-10,null]\x7d" := by decide +kernel
  exact ⟨hfree, hline ▸ hformat false, hcompact ▸ hjson⟩

end Peg.Value
