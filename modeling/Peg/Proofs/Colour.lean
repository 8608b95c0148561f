import Mathlib.Data.List.Forall2
import Mathlib.Data.List.TakeWhile
import Peg.Value.Printer

/-!
Colour adds to a rendering and changes nothing in it.

Every piece of a rendering is painted by itself, and no piece brings an escape
character along: texts and names are escaped, and numbers and punctuation have no
control characters. So the codes in a rendering are those of the palette, and what is
left without them is the rendering without a palette, in which only the line feeds of
the pretty layout are control characters.
-/
namespace Peg

namespace Palette

/-- Every role has its code on an ANSI terminal or none. -/
structure PartOfAnsi (p : Palette) : Prop where
  blue : p.blue = "" ∨ p.blue = ansi.blue
  green : p.green = "" ∨ p.green = ansi.green
  red : p.red = "" ∨ p.red = ansi.red
  dim : p.dim = "" ∨ p.dim = ansi.dim
  reset : p.reset = "" ∨ p.reset = ansi.reset

end Palette

/-- What follows the terminal code that a text starts with, which is an escape
character, a bracket, digits and the letter m. -/
def dropCode? : List Char → Option (List Char)
  | '\x1b' :: '[' :: text =>
    match text.takeWhile Char.isDigit, text.dropWhile Char.isDigit with
    | _ :: _, 'm' :: rest => some rest
    | _, _ => none
  | _ => none

theorem length_of_dropCode? {text rest : List Char} (h : dropCode? text = some rest) :
    rest.length < text.length := by
  unfold dropCode? at h
  split at h
  · next text =>
    split at h
    · next rest' _ hrest =>
      cases h
      have hle := (List.dropWhile_suffix Char.isDigit (l := text)).length_le
      rw [hrest, List.length_cons] at hle
      simp only [List.length_cons]
      omega
    · cases h
  · cases h

/-- The text without the terminal codes in it. -/
def stripCodes (text : List Char) : List Char :=
  match text with
  | [] => []
  | c :: rest =>
    match _h : dropCode? (c :: rest) with
    | some behind => stripCodes behind
    | none => c :: stripCodes rest
termination_by text.length
decreasing_by
  · exact length_of_dropCode? ‹_›
  · simp

theorem stripCodes_of_drop {text rest : List Char} (h : dropCode? text = some rest) :
    stripCodes text = stripCodes rest := by
  cases text with
  | nil => cases h
  | cons c text =>
    rw [stripCodes]
    split
    · next behind hbehind =>
      rw [h] at hbehind
      rw [Option.some.inj hbehind]
    · next hnone =>
      rw [h] at hnone
      cases hnone

theorem stripCodes_cons {c : Char} (hc : c ≠ '\x1b') (rest : List Char) :
    stripCodes (c :: rest) = c :: stripCodes rest := by
  have hnone : dropCode? (c :: rest) = none := by
    unfold dropCode?
    split
    · next heq =>
      obtain ⟨rfl, -⟩ := List.cons.inj heq
      exact absurd rfl hc
    · rfl
  rw [stripCodes]
  split
  · next behind hbehind =>
    rw [hnone] at hbehind
    cases hbehind
  · rfl

theorem stripCodes_append {text : List Char} (h : '\x1b' ∉ text) (rest : List Char) :
    stripCodes (text ++ rest) = text ++ stripCodes rest := by
  induction text with
  | nil => rfl
  | cons c text ih =>
    obtain ⟨hc, htext⟩ := List.ne_and_not_mem_of_not_mem_cons h
    rw [List.cons_append, stripCodes_cons (Ne.symm hc), ih htext, List.cons_append]

/-- Without its terminal codes the first text is the second one, whatever follows. -/
def Shows (coloured plain : List Char) : Prop :=
  ∀ rest, stripCodes (coloured ++ rest) = plain ++ stripCodes rest

namespace Shows

variable {a b a' b' : List Char}

theorem of_clean (h : '\x1b' ∉ a) : Shows a a :=
  stripCodes_append h

theorem append (h : Shows a a') (h' : Shows b b') : Shows (a ++ b) (a' ++ b') := by
  intro rest
  rw [List.append_assoc, h, h', List.append_assoc]

theorem stripCodes_eq (h : Shows a a') : stripCodes a = a' := by
  have hend := h []
  rwa [List.append_nil, stripCodes, List.append_nil] at hend

/-- A terminal code does not show. -/
theorem code {digits : List Char} (hne : digits ≠ []) (hall : digits.all Char.isDigit = true) :
    Shows ('\x1b' :: '[' :: (digits ++ ['m'])) [] := by
  intro rest
  apply stripCodes_of_drop
  have hdigits : ∀ c ∈ digits, c.isDigit = true := List.all_eq_true.mp hall
  have htake : (digits ++ 'm' :: rest).takeWhile Char.isDigit = digits := by
    rw [List.takeWhile_append_of_pos hdigits, List.takeWhile_cons_of_neg (by decide)]
    exact List.append_nil _
  have hdrop : (digits ++ 'm' :: rest).dropWhile Char.isDigit = 'm' :: rest := by
    rw [List.dropWhile_append_of_pos hdigits, List.dropWhile_cons_of_neg (by decide)]
  -- The digits end with the letter, whatever digits may follow behind it.
  obtain ⟨d, ds, rfl⟩ := List.exists_cons_of_ne_nil hne
  simp only [List.cons_append, List.append_assoc, List.nil_append] at htake hdrop ⊢
  simp only [dropCode?, htake, hdrop]

/-- A piece is the same in colour once its codes are gone. -/
theorem paint {p : Palette} {code : String} (hcode : Shows code.toList [])
    (hreset : Shows p.reset.toList []) (h : '\x1b' ∉ a) : Shows (p.paint code a) a := by
  unfold Palette.paint
  split
  · exact of_clean h
  · simpa using (hcode.append (of_clean h)).append hreset

end Shows

namespace Palette.PartOfAnsi

variable {p : Palette}

theorem shows_of_digits {code : String} (digits : List Char)
    (h : code.toList = '\x1b' :: '[' :: (digits ++ ['m'])) (hne : digits ≠ [])
    (hall : digits.all Char.isDigit = true) : Shows code.toList [] :=
  h ▸ Shows.code hne hall

/-- None of the codes of the palette shows. -/
theorem shows_codes (hp : p.PartOfAnsi) : Shows p.blue.toList [] ∧ Shows p.green.toList [] ∧
    Shows p.dim.toList [] ∧ Shows p.reset.toList [] := by
  have hnone : Shows "".toList [] := fun _ => rfl
  refine ⟨?_, ?_, ?_, ?_⟩
  · rcases hp.blue with h | h
    · exact h ▸ hnone
    · exact h ▸ shows_of_digits ['3', '4'] rfl (List.cons_ne_nil _ _) rfl
  · rcases hp.green with h | h
    · exact h ▸ hnone
    · exact h ▸ shows_of_digits ['3', '2'] rfl (List.cons_ne_nil _ _) rfl
  · rcases hp.dim with h | h
    · exact h ▸ hnone
    · exact h ▸ shows_of_digits ['2'] rfl (List.cons_ne_nil _ _) rfl
  · rcases hp.reset with h | h
    · exact h ▸ hnone
    · exact h ▸ shows_of_digits ['0'] rfl (List.cons_ne_nil _ _) rfl

end Palette.PartOfAnsi

namespace Value

/-! ### Pieces without control characters -/

/-- No character of the text is a control character. -/
def Clean (text : List Char) : Prop :=
  ∀ c ∈ text, isControl c = false

namespace Clean

variable {a b : List Char}

theorem append (h : Clean a) (h' : Clean b) : Clean (a ++ b) :=
  fun c hc => (List.mem_append.mp hc).elim (h c) (h' c)

theorem cons {c : Char} (hc : isControl c = false) (h : Clean a) : Clean (c :: a) :=
  List.forall_mem_cons.mpr ⟨hc, h⟩

theorem of_subset (h : Clean b) (hsub : a ⊆ b) : Clean a :=
  fun c hc => h c (hsub hc)

theorem replicate {c : Char} (hc : isControl c = false) (n : Nat) : Clean (List.replicate n c) :=
  fun _ hd => List.eq_of_mem_replicate hd ▸ hc

/-- A text whose characters are all one of a few clean ones. -/
theorem of_decide (h : a.all fun c => !isControl c) : Clean a := by
  intro c hc
  simpa using List.all_eq_true.mp h c hc

theorem digits (n : Nat) : Clean (Nat.toDigits 10 n) := by
  intro c hc
  have hdigit := Nat.isDigit_of_mem_toDigits (by decide) (by decide) hc
  simp only [Char.isDigit, Bool.and_eq_true, decide_eq_true_eq, ge_iff_le, UInt32.le_iff_toNat_le]
    at hdigit
  simp only [isControl, Bool.or_eq_false_iff, Bool.and_eq_false_iff, decide_eq_false_iff_not]
  have hfirst : '0'.val.toNat = 0x30 := rfl
  have hlast : '9'.val.toNat = 0x39 := rfl
  have hval : c.toNat = c.val.toNat := rfl
  omega

theorem not_mem {c : Char} (h : Clean a) (hc : isControl c = true) : c ∉ a :=
  fun hmem => by rw [h c hmem] at hc; cases hc

end Clean

theorem clean_decimal (n : Int) : Clean (decimal n) := by
  unfold decimal
  split
  · exact Clean.cons (by decide) (Clean.digits _)
  · exact Clean.digits _

/-- A character written by its number has none but a backslash, a letter and
hexadecimal digits. -/
theorem clean_numbered {c : Char} (h : isControl c = true) : Clean (numbered c) := by
  have hall : ∀ n < 0xA0, (List.replicate (4 - (hexDigits n).length) '0' ++ hexDigits n).all
      fun c => !isControl c := by decide +kernel
  have hlt := toNat_lt_of_isControl h
  exact Clean.cons (by decide) (Clean.cons (by decide) (Clean.of_decide (hall _ hlt)))

theorem clean_escape (c : Char) : Clean (escape c) := by
  unfold escape
  split
  case h_6 =>
    split
    · next h => exact clean_numbered h
    · next h => exact Clean.cons (by simpa using h) (Clean.of_decide rfl)
  all_goals exact Clean.of_decide (by decide)

/-- No text puts a control character between its quotes. -/
theorem clean_quote (s : String) : Clean (quote escape s) := by
  have htext : Clean (s.toList.flatMap escape) := by
    intro c hc
    obtain ⟨d, -, hd⟩ := List.mem_flatMap.mp hc
    exact clean_escape d c hd
  exact Clean.cons (by decide) (htext.append (Clean.of_decide (by decide)))

theorem clean_positional {digits : List Char} (h : Clean digits) (point : Int) :
    Clean (Decimal.positional digits point) := by
  have hzeros (n : Nat) : Clean (List.replicate n '0') := Clean.replicate (by decide) n
  simp only [Decimal.positional]
  split
  · exact Clean.cons (by decide) (Clean.cons (by decide) ((hzeros _).append h))
  · split
    · exact (h.append (hzeros _)).append (Clean.of_decide (by decide))
    · exact (h.of_subset (List.take_subset _ _)).append
        (Clean.cons (by decide) (h.of_subset (List.drop_subset _ _)))

theorem clean_scientific {digits : List Char} (h : Clean digits) (plus : Bool) (power : Int) :
    Clean (Decimal.scientific plus digits power) := by
  have hsign : Clean (if power < 0 then ['-'] else if plus then ['+'] else []) := by
    split_ifs <;> exact Clean.of_decide (by decide)
  have hpower := Clean.cons (c := 'e') (by decide) (hsign.append (Clean.digits power.natAbs))
  rcases digits with - | ⟨d, - | ⟨d', rest⟩⟩
  · exact h.append hpower
  · exact h.append hpower
  · have hpoint := Clean.cons (c := '.') (by decide) (h.of_subset (List.subset_cons_self d _))
    exact (Clean.cons (h d List.mem_cons_self) hpoint).append hpower

/-- No double puts a control character into a rendering. -/
theorem clean_write (x : Float) : Clean (plainFloat.write x) := by
  have hdigits (d : Decimal.Digits) : Clean (plainFloat.writeDigits d) := by
    simp only [Decimal.Layout.writeDigits]
    split
    · exact clean_positional (Clean.digits _) _
    · exact clean_scientific (Clean.digits _) _ _
  unfold Decimal.Layout.write
  split
  · exact Clean.of_decide (by decide)
  · exact Clean.of_decide (by decide)
  · exact Clean.of_decide (by decide)
  · dsimp only
    split
    · exact Clean.cons (by decide) (hdigits _)
    · exact hdigits _

/-! ### A rendering in two palettes -/

/-- A piece in colour and the same piece without, which holds this many line feeds in
the pretty layout and otherwise none, and no other control character. -/
structure Agrees (pretty : Bool) (coloured plain : List Char) (breaks : Nat) : Prop where
  shows : Shows coloured plain
  control : ∀ c ∈ plain, isControl c = true → c = '\n'
  breaks : plain.count '\n' = if pretty then breaks else 0

namespace Agrees

variable {pretty : Bool} {a b a' b' : List Char} {m n : Nat}

theorem append (h : Agrees pretty a a' m) (h' : Agrees pretty b b' n) :
    Agrees pretty (a ++ b) (a' ++ b') (m + n) where
  shows := h.shows.append h'.shows
  control c hc := (List.mem_append.mp hc).elim (h.control c) (h'.control c)
  breaks := by
    rw [List.count_append, h.breaks, h'.breaks]
    split <;> rfl

/-- What has no control character counts for no line, in whatever way it is painted. -/
theorem of_shows (hshows : Shows a a') (h : Clean a') : Agrees pretty a a' 0 where
  shows := hshows
  control c hc hcontrol := absurd hc (h.not_mem hcontrol)
  breaks := by
    rw [List.count_eq_zero.mpr (h.not_mem (by decide)), ite_self]

theorem of_clean (h : Clean a) : Agrees pretty a a 0 :=
  of_shows (Shows.of_clean (h.not_mem (by decide))) h

end Agrees

/-- The entries of a list or object in colour and without, and how many line feeds are
inside them. -/
inductive AgreeAll (pretty : Bool) : List (List Char) → List (List Char) → Nat → Prop
  | nil : AgreeAll pretty [] [] 0
  | cons {a a' : List Char} {es es' : List (List Char)} {m n : Nat} :
    Agrees pretty a a' m → AgreeAll pretty es es' n →
      AgreeAll pretty (a :: es) (a' :: es') (m + n)

/-- The line feeds that the pretty layout puts around so many entries: one before each
of them, and one before the closing bracket. -/
def breaksAround : Nat → Nat
  | 0 => 0
  | entries + 1 => entries + 2

namespace Style

variable {pretty : Bool} {p : Palette}

theorem paint_agrees (hp : p.PartOfAnsi) {code : String} (hcode : Shows code.toList [])
    {text : List Char} (h : Clean text) :
    Agrees pretty (p.paint code text) (Palette.plain.paint "" text) 0 :=
  .of_shows (.paint hcode hp.shows_codes.2.2.2 (h.not_mem (by decide))) h

theorem dim_agrees (hp : p.PartOfAnsi) {text : List Char} (h : Clean text) :
    Agrees pretty (dim ⟨pretty, p⟩ text) (dim ⟨pretty, .plain⟩ text) 0 :=
  paint_agrees hp hp.shows_codes.2.2.1 h

theorem lead_agrees (p : Palette) (indent : Nat) :
    Agrees pretty (lead ⟨pretty, p⟩ indent) (lead ⟨pretty, .plain⟩ indent) 1 := by
  have hspaces : Clean (List.replicate indent ' ') := Clean.replicate (by decide) indent
  cases pretty with
  | false => exact ⟨fun _ => rfl, fun _ hc => (List.not_mem_nil hc).elim, rfl⟩
  | true =>
    have hline : Agrees true ['\n'] ['\n'] 1 :=
      ⟨Shows.of_clean (by decide), fun c hc _ => List.mem_singleton.mp hc, rfl⟩
    exact hline.append (.of_clean hspaces)

theorem further_agrees (hp : p.PartOfAnsi) (indent : Nat) {es es' : List (List Char)} {n : Nat}
    (h : AgreeAll pretty es es' n) :
    Agrees pretty (further ⟨pretty, p⟩ indent es) (further ⟨pretty, .plain⟩ indent es')
      (n + es.length) := by
  -- Every entry brings its own line feeds and the one of the line it begins.
  induction h with
  | nil => exact .of_clean (.of_decide rfl)
  | @cons a a' es es' m n ha _ ih =>
    have hcomma : Agrees pretty (dim ⟨pretty, p⟩ [',']) (dim ⟨pretty, .plain⟩ [',']) 0 :=
      dim_agrees hp (.of_decide (by decide))
    have hgap : Agrees pretty (if pretty then lead ⟨pretty, p⟩ indent else [' '])
        (if pretty then lead ⟨pretty, .plain⟩ indent else [' ']) 1 := by
      cases pretty with
      | true => exact lead_agrees p indent
      | false =>
        -- A space counts for no line, and in one line neither does anything else.
        have hspace : Agrees false [' '] [' '] 0 := .of_clean (.of_decide rfl)
        exact ⟨hspace.shows, hspace.control, rfl⟩
    have hall := ((hcomma.append hgap).append ha).append ih
    rw [show 0 + 1 + m + (n + es.length) = m + n + (es.length + 1) by omega] at hall
    exact hall

theorem group_agrees (hp : p.PartOfAnsi) {opening closing : Char}
    (hopening : isControl opening = false) (hclosing : isControl closing = false) (indent : Nat)
    {es es' : List (List Char)} {n : Nat} (h : AgreeAll pretty es es' n) :
    Agrees pretty (group ⟨pretty, p⟩ opening closing indent es)
      (group ⟨pretty, .plain⟩ opening closing indent es') (n + breaksAround es.length) := by
  have hbracket {c : Char} (hc : isControl c = false) :
      Agrees pretty (dim ⟨pretty, p⟩ [c]) (dim ⟨pretty, .plain⟩ [c]) 0 :=
    dim_agrees hp (Clean.cons hc (.of_decide rfl))
  cases h with
  | nil => exact (hbracket hopening).append (hbracket hclosing)
  | @cons a a' es es' m n ha hes =>
    have hinside := ((hbracket hopening).append (lead_agrees p (indent + 2))).append ha
    have hbehind := hinside.append (further_agrees hp (indent + 2) hes)
    have hall := (hbehind.append (lead_agrees p indent)).append (hbracket hclosing)
    rw [show 0 + 1 + m + (n + es.length) + 1 + 0 = m + n + breaksAround (es.length + 1) by
      simp only [breaksAround]; omega] at hall
    exact hall

end Style

/-! ### The rendering of a value -/

mutual

/-- The line feeds in the pretty rendering of a value. -/
def breaks : Value → Nat
  | list items => breaksAmong items + breaksAround items.length
  | object fields => breaksBelow fields + breaksAround fields.length
  | _ => 0

/-- The line feeds inside the items of a list. -/
def breaksAmong : List Value → Nat
  | [] => 0
  | v :: rest => v.breaks + breaksAmong rest

/-- The line feeds inside the fields of an object. -/
def breaksBelow : List (String × Value) → Nat
  | [] => 0
  | (_, v) :: rest => v.breaks + breaksBelow rest

end

theorem length_itemChars (st : Style) (indent : Nat) (items : List Value) :
    (itemChars st indent items).length = items.length := by
  induction items with
  | nil => rfl
  | cons v rest ih => simp only [itemChars, List.length_cons, ih]

theorem length_fieldChars (st : Style) (indent : Nat) (fields : List (String × Value)) :
    (fieldChars st indent fields).length = fields.length := by
  induction fields with
  | nil => rfl
  | cons field rest ih => simp only [fieldChars, List.length_cons, ih]

variable {p : Palette} (pretty : Bool)

mutual

/-- A value in colour agrees with the value without. -/
theorem chars_agrees (hp : p.PartOfAnsi) (indent : Nat) :
    ∀ v : Value, Agrees pretty (v.chars ⟨pretty, p⟩ indent) (v.chars ⟨pretty, .plain⟩ indent)
      v.breaks
  | null => Style.dim_agrees hp (.of_decide (by decide))
  | text s => Style.paint_agrees hp hp.shows_codes.2.1 (clean_quote s)
  | integer n => .of_clean (clean_decimal n)
  | float x => .of_clean (clean_write x)
  | list items => by
    have hall := itemChars_agree hp (indent + 2) items
    have hgroup := Style.group_agrees hp (by decide : isControl '[' = false)
      (by decide : isControl ']' = false) indent hall
    rwa [length_itemChars] at hgroup
  | object fields => by
    have hall := fieldChars_agree hp (indent + 2) fields
    have hgroup := Style.group_agrees hp (by decide : isControl '\x7b' = false)
      (by decide : isControl '\x7d' = false) indent hall
    rwa [length_fieldChars] at hgroup

theorem itemChars_agree (hp : p.PartOfAnsi) (indent : Nat) :
    ∀ items : List Value, AgreeAll pretty (itemChars ⟨pretty, p⟩ indent items)
      (itemChars ⟨pretty, .plain⟩ indent items) (breaksAmong items)
  | [] => .nil
  | v :: rest => .cons (chars_agrees hp indent v) (itemChars_agree hp indent rest)

theorem fieldChars_agree (hp : p.PartOfAnsi) (indent : Nat) :
    ∀ fields : List (String × Value), AgreeAll pretty (fieldChars ⟨pretty, p⟩ indent fields)
      (fieldChars ⟨pretty, .plain⟩ indent fields) (breaksBelow fields)
  | [] => .nil
  | (k, v) :: rest => by
    have hname : Agrees pretty (Style.blue ⟨pretty, p⟩ (quote escape k))
        (Style.blue ⟨pretty, .plain⟩ (quote escape k)) 0 :=
      Style.paint_agrees hp hp.shows_codes.1 (clean_quote k)
    have hcolon : Agrees pretty (Style.dim ⟨pretty, p⟩ [':']) (Style.dim ⟨pretty, .plain⟩ [':'])
        0 := Style.dim_agrees hp (.of_decide (by decide))
    have hspace : Agrees pretty [' '] [' '] 0 := .of_clean (.of_decide (by decide))
    have hfield := (hname.append hcolon).append (hspace.append (chars_agrees hp indent v))
    rw [show 0 + 0 + (0 + v.breaks) = v.breaks by omega] at hfield
    exact .cons hfield (fieldChars_agree hp indent rest)

end

/-- Colour is additive. Whatever the texts and names of a value hold, its rendering
without the terminal codes is its rendering in no palette, and the only control
characters there are the line feeds of the pretty layout: one before every entry and one
before every closing bracket of a list or object that is not empty. -/
theorem colour_adds_only_codes (v : Value) (p : Palette) (hp : p.PartOfAnsi) (pretty : Bool) :
    stripCodes (v.format pretty p).toList = (v.format pretty .plain).toList ∧
      (∀ c ∈ (v.format pretty .plain).toList,
        isControl c = true → pretty = true ∧ c = '\n') ∧
      (v.format pretty .plain).toList.count '\n' = if pretty then v.breaks else 0 := by
  have hagrees := chars_agrees pretty hp 0 v
  simp only [format, String.toList_ofList]
  refine ⟨hagrees.shows.stripCodes_eq, ?_, hagrees.breaks⟩
  intro c hc hcontrol
  obtain rfl := hagrees.control c hc hcontrol
  refine ⟨?_, rfl⟩
  -- In one line there are no line feeds to be found.
  by_contra hcompact
  have hcount := hagrees.breaks
  rw [if_neg hcompact] at hcount
  exact List.count_eq_zero.mp hcount hc

/-- A text that asks for dim type, in a palette that has no code for names. -/
theorem dim_request_adds_only_codes :
    Palette.PartOfAnsi { Palette.ansi with blue := "" } ∧
      stripCodes ((object [("\x1b", list [text "\x1b[2m", null])]).format false
        { Palette.ansi with blue := "" }).toList =
          "\x7b\"\\u001b\": [\"\\u001b[2m\", null]\x7d".toList := by
  have hpart : Palette.PartOfAnsi { Palette.ansi with blue := "" } :=
    ⟨.inl rfl, .inr rfl, .inr rfl, .inr rfl, .inr rfl⟩
  exact ⟨hpart, (colour_adds_only_codes _ _ hpart false).1.trans (by decide +kernel)⟩

end Value

end Peg
