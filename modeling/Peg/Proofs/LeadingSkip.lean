import Peg.Grammar.Combinator
import Peg.Grammar.Conversion
import Peg.Proofs.Forward
import Peg.Proofs.SkipSet

/-!
Skipped characters in front of a text.

With more of them in front, every token lies behind where it lay before. Not so what is
not moved by a token: an optional part at the start that matches nothing stays at the
start, before the skipped characters, in both runs. So the cursors of the two runs belong
together if both are at the start, or if a token was passed and one is as far behind the
other as there are skipped characters. Where tokens are never empty, the offset tells
which of the two it is.
-/
namespace Peg

open Eval

/-- The same is ahead of both cursors, and `word` is before all that is before `c`. -/
structure Behind (word : List Char) (c c' : Cursor) : Prop where
  before_eq : c'.before = c.before ++ word.reverse
  after_eq : c'.after = c.after

theorem Cursor.start_offset (text : List Char) : (Cursor.start text).offset = 0 := rfl

theorem Cursor.start_after (text : List Char) : (Cursor.start text).after = text := rfl

namespace Behind

variable {word : List Char} {c c' d d' : Cursor}

theorem offset_eq (h : Behind word c c') : c'.offset = c.offset + byteLength word := by
  rw [c'.offset_eq, c.offset_eq, h.before_eq, byteLength_append, byteLength_reverse]

/-- Passing the same token keeps the distance. -/
theorem of_passes (h : Behind word c c') {token : List Char} (hd : c.Passes d token)
    (hd' : c'.Passes d' token) : Behind word d d' where
  before_eq := by rw [hd'.before_eq, hd.before_eq, h.before_eq, List.append_assoc]
  after_eq := by
    have hafter : token ++ d'.after = token ++ d.after := by
      rw [← hd'.after_eq, ← hd.after_eq, h.after_eq]
    exact List.append_cancel_left hafter

theorem skipWhile (h : Behind word c c') (p : Char → Bool) :
    Behind word (c.skipWhile p) (c'.skipWhile p) := by
  have hpasses := c'.passes_skipWhile p
  rw [h.after_eq] at hpasses
  exact h.of_passes (c.passes_skipWhile p) hpasses

/-- What is skipped in front makes up the distance of what is found behind it. -/
theorem of_start {p : Char → Bool} (hword : ∀ x ∈ word, p x = true) (text : List Char) :
    Behind word ((Cursor.start text).skipWhile p) ((Cursor.start (word ++ text)).skipWhile p) := by
  have hnear := (Cursor.start text).passes_skipWhile p
  have hfar := (Cursor.start (word ++ text)).passes_skipWhile p
  let gap := text.takeWhile p
  have hgap : (Cursor.start (word ++ text)).after.takeWhile p = word ++ gap :=
    List.takeWhile_append_of_pos hword
  rw [hgap] at hfar
  constructor
  · calc
      _ = (word ++ gap).reverse ++ [] := hfar.before_eq
      _ = (gap.reverse ++ []) ++ word.reverse := by simp
      _ = _ := by rw [hnear.before_eq]; rfl
  · have htext : word ++ text = (word ++ gap) ++ _ := hfar.after_eq
    have hrest : text = gap ++ _ := hnear.after_eq
    rw [List.append_assoc] at htext
    have hafter := (List.append_cancel_left htext).symm.trans hrest
    exact List.append_cancel_left hafter

end Behind

theorem takeBytes_zero (text : List Char) : takeBytes 0 text = [] :=
  takeBytes_append [] text

/-- Leading characters that fit together with a word are what fits behind the word. -/
theorem takeBytes_add (word text : List Char) (n : Nat) :
    takeBytes (n + byteLength word) (word ++ text) = word ++ takeBytes n text := by
  induction word with
  | nil => rfl
  | cons x word ih =>
    have hfits : x.utf8Size ≤ n + byteLength (x :: word) := by
      rw [byteLength_cons]
      omega
    have hleft : n + byteLength (x :: word) - x.utf8Size = n + byteLength word := by
      rw [byteLength_cons]
      omega
    rw [List.cons_append, takeBytes, if_pos hfits, hleft, ih]
    rfl

section Notes

/-- What was noted at the same distance, or nothing yet. -/
structure NotedBehind (word : List Char) (f f' : Furthest) : Prop where
  expected : f.expected = f'.expected
  start : f.expected = [] → f.cursor.offset = 0
  offset : f'.cursor.offset =
    if f.expected = [] then 0 else f.cursor.offset + byteLength word

variable {f f' : Furthest} {c c' : Cursor}

/-- The first note is kept, wherever it is. -/
theorem record_of_unnoted (h : f.expected = []) (hstart : f.cursor.offset = 0)
    (label : Unit → String) :
    (f.record c label).expected = [label ()] ∧ (f.record c label).cursor.offset = c.offset := by
  have hbefore : ¬ c.offset < f.cursor.offset := by omega
  unfold Furthest.record
  rw [if_neg hbefore, h]
  dsimp only
  by_cases hbeyond : f.cursor.offset < c.offset
  · rw [if_pos hbeyond]
    exact ⟨rfl, rfl⟩
  · have hsame : f.cursor.offset = c.offset := by omega
    rw [if_neg hbeyond]
    exact ⟨rfl, hsame⟩

/-- Later notes are compared by their offsets, which differ by the distance. -/
theorem NotedBehind.record {word : List Char} (h : NotedBehind word f f') (hc : Behind word c c')
    (label : Unit → String) : NotedBehind word (f.record c label) (f'.record c' label) := by
  have hoffset := hc.offset_eq
  by_cases hempty : f.expected = []
  · -- The first note of both runs, whose offsets have not differed so far.
    have hfar : f'.cursor.offset = 0 := by rw [h.offset, if_pos hempty]
    obtain ⟨hnote, hplace⟩ := record_of_unnoted (c := c) hempty (h.start hempty) label
    obtain ⟨hnote', hplace'⟩ := record_of_unnoted (c := c') (h.expected ▸ hempty) hfar label
    refine ⟨hnote.trans hnote'.symm, ?_, ?_⟩
    · rw [hnote]
      exact fun habsurd => absurd habsurd (List.cons_ne_nil _ _)
    · rw [hnote, if_neg (List.cons_ne_nil _ _), hplace, hplace', hoffset]
  · have hfar : f'.cursor.offset = f.cursor.offset + byteLength word := by
      rw [h.offset, if_neg hempty]
    -- All notes were moved by the same distance, so the comparisons come out the same.
    have hbefore : c'.offset < f'.cursor.offset ↔ c.offset < f.cursor.offset := by omega
    have hbeyond : f'.cursor.offset < c'.offset ↔ f.cursor.offset < c.offset := by omega
    unfold Furthest.record
    simp only [hbefore, hbeyond, ← h.expected]
    split
    · exact h
    · split
      · exact ⟨rfl, by simp, hoffset⟩
      · split
        · exact h
        · exact ⟨rfl, by simp, by simpa using hfar⟩

end Notes

/-- A leaf is a token if it is a literal that is not empty or a pattern that looks only
ahead. Elements that are no leaves are as good as their leaves. -/
def Element.IsToken (e : Element) : Prop :=
  match e.kind with
  | .literal text => text ≠ ""
  | .pattern regex _ => regex.Forward
  | .endOfInput => False
  | _ => True

/-- All leaves that a run can come to are tokens. -/
def Grammar.MadeOfTokens (g : Grammar) : Prop :=
  ∀ e, g.Uses e → e.IsToken

/-- Whether it can be seen from an element that it is a token, or no leaf. -/
def Element.looksAhead (e : Element) : Bool :=
  match e.kind with
  | .literal text => text != ""
  | .pattern regex _ =>
    Regex.LookFree regex.program && (regex.matchFrom (Cursor.start [])).isNone
  | .endOfInput => false
  | _ => true

theorem Element.isToken_of_looksAhead {e : Element} (h : e.looksAhead = true) : e.IsToken := by
  unfold looksAhead at h
  unfold IsToken
  cases hkind : e.kind with
  | literal text => simpa [hkind] using h
  | pattern regex capture =>
    have hchecks : Regex.LookFree regex.program = true ∧
        (regex.matchFrom (Cursor.start [])).isNone = true := by simpa [hkind] using h
    exact Regex.forward_of_lookFree hchecks.1 (Option.isNone_iff_eq_none.mp hchecks.2)
  | endOfInput => simp [hkind] at h
  | _ => trivial

/-- Two matches of a pattern with the same texts have the same value. -/
theorem Capture.value_congr (capture : Capture) {regex : Regex} {c c' : Cursor}
    {m m' : Regex.Match} (hm : regex.matchFrom c = some m) (hm' : regex.matchFrom c' = some m')
    (htext : m.text = m'.text) (hgroups : m.positional = m'.positional) :
    capture.value m = capture.value m' := by
  have hnamed : m.named = m'.named := by
    unfold Regex.Match.named
    rw [Regex.matchFrom_names hm, Regex.matchFrom_names hm', hgroups]
  cases capture with
  | text => exact congrArg Value.text htext
  | groups =>
    change groupsValue m = groupsValue m'
    unfold groupsValue
    rw [hnamed, hgroups]

/-- Two runs of which the second reads `word` in front of `text`. -/
def leadingGap (word text : List Char) (gap : Char → Bool) : Correspondence Unit where
  gap := gap
  gap' := gap
  place c c' := (c = Cursor.start text ∧ c' = Cursor.start (word ++ text)) ∨
    (0 < c.offset ∧ Behind word c c')
  spot := Behind word
  notes := NotedBehind word
  seen _ _ := True

section Lawful

variable {word text : List Char} {gap : Char → Bool} {c c' d d' : Cursor}

/-- Behind a token the cursors are at the distance of the two texts. -/
theorem place_of_passes (h : Behind word c c') {token : List Char} (htoken : token ≠ [])
    (hd : c.Passes d token) (hd' : c'.Passes d' token) :
    (leadingGap word text gap).place d d' := by
  have hlength : byteLength token ≠ 0 := mt eq_nil_of_byteLength htoken
  have hoffset := hd.offset_eq
  exact Or.inr ⟨by omega, h.of_passes hd hd'⟩

/-- A pattern that looks only ahead finds the same at both cursors. -/
theorem pattern_of_forward {regex : Regex} (hforward : regex.Forward) (capture : Capture)
    (h : Behind word c c') :
    Option.Rel (fun m m' => capture.value m = capture.value m' ∧
        (leadingGap word text gap).place m.stop m'.stop)
      (regex.matchFrom c) (regex.matchFrom c') := by
  have hfound := hforward.ahead h.after_eq.symm
  generalize hm : regex.matchFrom c = found at hfound ⊢
  generalize hm' : regex.matchFrom c' = found' at hfound ⊢
  cases hfound with
  | none => exact .none
  | @some m m' hsame =>
    obtain ⟨htext, hgroups⟩ := hsame
    have hpasses : c.Passes m.stop m.text.toList := Regex.matchFrom_passes hm
    have hpasses' : c'.Passes m'.stop m.text.toList := htext ▸ Regex.matchFrom_passes hm'
    have htoken : m.text.toList ≠ [] := by
      intro hempty
      have hoffset := hpasses.offset_eq
      have hstill : m.isEmpty = true := by
        unfold Regex.Match.isEmpty
        rw [Regex.matchFrom_start hm, hoffset, hempty]
        exact beq_self_eq_true _
      exact absurd hstill (Bool.eq_false_iff.mp (hforward.nonempty hm))
    exact .some ⟨capture.value_congr hm hm' htext hgroups,
      place_of_passes h htoken hpasses hpasses'⟩

/-- The start of the text is the only place that is not moved. -/
theorem offset_of_place (h : (leadingGap word text gap).place c c') :
    c'.offset = if c.offset = 0 then 0 else c.offset + byteLength word := by
  rcases h with ⟨rfl, rfl⟩ | ⟨hpos, hbehind⟩
  · rfl
  · rw [if_neg (Nat.ne_of_gt hpos)]
    exact hbehind.offset_eq

theorem lt_iff_of_place (hc : (leadingGap word text gap).place c c')
    (hd : (leadingGap word text gap).place d d') : c.offset < d.offset ↔ c'.offset < d'.offset := by
  have hoffset := offset_of_place hc
  have hoffset' := offset_of_place hd
  split at hoffset
  · split at hoffset'
    · omega
    · omega
  · split at hoffset'
    · omega
    · omega

/-- The text of a typed leaf differs by the skipped characters in front, which are not
converted. -/
theorem text_eq_of_place (hword : ∀ x ∈ word, gap x = true)
    (hc : (leadingGap word text gap).place c c') (hd : (leadingGap word text gap).place d d') :
    (c.upTo d).dropWhile gap = (c'.upTo d').dropWhile gap := by
  unfold Cursor.upTo
  rcases hc with ⟨rfl, rfl⟩ | ⟨hpos, hbehind⟩
  · rcases hd with ⟨rfl, rfl⟩ | ⟨hpos', hbehind'⟩
    · rw [Cursor.start_offset, Cursor.start_offset, takeBytes_zero, takeBytes_zero]
    · -- Only from the start on the texts differ, and the difference is trimmed.
      rw [Cursor.start_offset, Cursor.start_offset, Cursor.start_after, Cursor.start_after,
        hbehind'.offset_eq, Nat.sub_zero, Nat.sub_zero, takeBytes_add,
        List.dropWhile_append_of_pos hword]
  · rcases hd with ⟨rfl, rfl⟩ | ⟨hpos', hbehind'⟩
    · rw [Cursor.start_offset, Cursor.start_offset, Nat.zero_sub, Nat.zero_sub, takeBytes_zero,
        takeBytes_zero]
    · have hlength : d'.offset - c'.offset = d.offset - c.offset := by
        rw [hbehind.offset_eq, hbehind'.offset_eq]
        omega
      rw [hlength, hbehind.after_eq]

theorem leadingGap_lawful (hword : ∀ x ∈ word, gap x = true) {g : Grammar} (hg : g.MadeOfTokens)
    (tracer : Tracer Unit) : (leadingGap word text gap).Lawful g tracer := by
  constructor
  case skip =>
    rintro c c' (⟨rfl, rfl⟩ | ⟨-, hbehind⟩)
    · exact Behind.of_start hword text
    · exact hbehind.skipWhile gap
  case literal =>
    intro e token used kind c c' h
    have htoken : token.toList ≠ [] := by
      have hne := hg e used
      unfold Element.IsToken at hne
      rw [kind] at hne
      simpa using hne
    have hafter : c'.after = c.after := h.after_eq
    rw [hafter]
    cases hfound : Scanner.dropWord? token.toList c.after with
    | none => exact .none
    | some rest =>
      have hword := Scanner.dropWord?_eq_some_iff.mp hfound
      exact .some (place_of_passes h htoken (Cursor.passes_past hword)
        (Cursor.passes_past (hafter.trans hword)))
  case pattern =>
    intro e regex capture used kind c c' h
    have hforward : regex.Forward := by
      have htoken := hg e used
      unfold Element.IsToken at htoken
      rwa [kind] at htoken
    exact pattern_of_forward hforward capture h
  case endOfInput =>
    intro e used kind
    have htoken := hg e used
    unfold Element.IsToken at htoken
    rw [kind] at htoken
    exact htoken.elim
  case atEnd =>
    intro c c' h
    exact congrArg List.isEmpty h.after_eq.symm
  case lt_iff => exact fun hc hd => lt_iff_of_place hc hd
  case text => exact fun hc hd => text_eq_of_place hword hc hd
  case record => exact fun hf _ _ hc label => hf.record hc label
  case enter | success | failure | backtrack =>
    intros
    trivial

end Lawful

/-- A result and what it becomes with `n` bytes of skipped characters in front: the value
is the same, and what lies behind them is moved. -/
inductive Shifted (n : Nat) :
    Except ParseError (Value × Nat) → Except ParseError (Value × Nat) → Prop
  | ok (value : Value) (stop : Nat) :
      Shifted n (.ok (value, stop)) (.ok (value, if stop = 0 then 0 else stop + n))
  | fatal {e : ParseError} (fatal : e.isNoMatch = false) : Shifted n (.error e) (.error e)
  | noMatch (position line column line' column' : Nat) {expected : List String}
      (noted : expected ≠ []) :
      Shifted n (.error (.noMatch position line column expected))
        (.error (.noMatch (position + n) line' column' expected))
  | unnoted (line column line' column' : Nat) :
      Shifted n (.error (.noMatch 0 line column [])) (.error (.noMatch 0 line' column' []))

/-- Skipped characters in front of a text change nothing but offsets: those behind the
first token, and that of the furthest failure if there is one. -/
theorem leading_skip_moves_offsets (g : Grammar) (hg : g.MadeOfTokens) (settings : Settings)
    (word text : List Char) (hword : ∀ x ∈ word, inSkip settings.skip x = true) :
    Shifted (byteLength word) (g.evaluatePrefix settings text)
      (g.evaluatePrefix settings (word ++ text)) := by
  let C := leadingGap word text (inSkip settings.skip)
  have hC : C.Lawful g .silent := leadingGap_lawful hword hg .silent
  have hstart : C.Facing (Grammar.startState settings text ())
      (Grammar.startState settings (word ++ text) ()) :=
    ⟨Or.inl ⟨rfl, rfl⟩, rfl, rfl, rfl, rfl, rfl, rfl, ⟨rfl, fun _ => rfl, rfl⟩, trivial⟩
  have hend := Correspondence.evaluateWith_concluded hC hstart rfl rfl
  unfold Grammar.evaluatePrefix
  generalize g.evaluateWith settings text .silent () = r at hend ⊢
  generalize g.evaluateWith settings (word ++ text) .silent () = r' at hend ⊢
  cases hend with
  | @ok v c c' _ _ place _ =>
    rw [offset_of_place place]
    exact .ok v c.offset
  | fatal fatal _ => exact .fatal fatal
  | @noMatch f f' _ _ notes _ =>
    have hoffset := notes.offset
    unfold Furthest.error
    rw [← notes.expected, hoffset]
    by_cases hnone : f.expected = []
    · rw [if_pos hnone, hnone, notes.start hnone]
      exact .unnoted _ _ _ _
    · rw [if_neg hnone]
      exact .noMatch _ _ _ _ _ hnone

/-- Words with commas between them, and dashes in front. -/
def wordList : Grammar :=
  let letters : Regex.Pattern := .times 1 none true (.set .characters ⟨[(97, 122)]⟩)
  let word := Element.ofRegex (.ofPattern "[a-z]+" letters (by decide))
  ⟨.sequence [(Element.literal "-").zeroOrMore,
    .separatedBy .comma (word.convert Conversion.length) 1 none], []⟩

/-- Two blanks in front of two words. -/
theorem wordList_indented :
    let text := ['a', 'b', ',', ' ', 'c']
    (wordList.evaluatePrefix {} text).map (·.2) = .ok 5 ∧
      (wordList.evaluatePrefix {} ([' ', ' '] ++ text)).map (·.2) = .ok 7 ∧
      Shifted 2 (wordList.evaluatePrefix {} text)
        (wordList.evaluatePrefix {} ([' ', ' '] ++ text)) := by
  intro text
  have htokens : wordList.MadeOfTokens := by
    intro e he
    have hroot : wordList.root.all Element.looksAhead = true := by decide +kernel
    exact Element.isToken_of_looksAhead (he.passes hroot rfl)
  have hblanks : [' ', ' '].all (inSkip (some CharSet.blanks)) = true := by decide +kernel
  exact ⟨by decide +kernel, by decide +kernel, leading_skip_moves_offsets wordList htokens {}
    [' ', ' '] text (List.all_eq_true.mp hblanks)⟩

end Peg
