import Peg.Proofs.Numeral
import Peg.Proofs.PatternLeaf
import Peg.Proofs.TypedLeaf

/-!
The typed leaf for whole numbers.

It matches exactly the numerals that are signed numbers of 64 bits, and takes the whole of
them. Where it does not match, it says so under its own name, and what its pattern would
have expected stays unsaid.
-/
namespace Peg

open Eval Numeral

variable {σ : Type} {en : Engine σ} {room : Nat} {s t : State σ}

theorem Regex.distinctNames_whole : DistinctNames Numeral.whole := by decide

/-- The pattern that whole numbers are looked for with. -/
def Regex.whole : Regex :=
  .ofPattern "[-+]?\\d+" Numeral.whole distinctNames_whole

theorem Regex.expr_whole : Expr.parse? "[-+]?\\d+" = some (.concat
    [.times 0 (some 1) true (.bracket false (.union (.literal '-') (.literal '+'))),
      .times 1 none true (.shorthand false .digit)]) := rfl

/-- The signs in the brackets are the set of both. -/
theorem Regex.union_signs : Unicode.CodeSet.union (.single '-') (.single '+') = signs := by
  have hspans : Unicode.CodeSet.union (.single '-') (.single '+') =
      Unicode.CodeSet.ofSpans [(0x2D, 0x2D), (0x2B, 0x2B)] := rfl
  have hsorted : List.mergeSort [(0x2D, 0x2D), (0x2B, 0x2B)]
      (fun s t : Nat × Nat => decide (s.1 ≤ t.1)) = [(0x2B, 0x2B), (0x2D, 0x2D)] := by
    simp [List.mergeSort]
  rw [hspans, Unicode.CodeSet.ofSpans, hsorted]
  rfl

/-- It is what the usual notation for it is compiled to. -/
theorem Regex.compile_whole : compile "[-+]?\\d+" = .ok .whole := by
  have hset : ClassExpr.set? {} (.bracket false (.union (.literal '-') (.literal '+'))) =
      some signs := congrArg some union_signs
  have hpattern : (Expr.parse? "[-+]?\\d+").bind Expr.pattern? = some Numeral.whole := by
    rw [expr_whole, Option.bind_some, Expr.pattern?]
    simp only [Expr.resolve?, resolveAll?, hset]
    rfl
  have hfits : Numeral.whole.fits = true := by decide +kernel
  unfold compile
  simp only [hpattern, distinctNames_whole, hfits, dif_pos, if_pos]
  rfl

section Leaf

variable {e : Element} {regex : Regex} {name : Option String} {f : String → Option Value}

/-- Inside a typed leaf a pattern matches or fails, and leaves no note. -/
theorem eval_pattern_of_quiet (en : Engine σ) (room : Nat) (regex : Regex) (hfuel : s.fuel ≠ 0)
    (hquiet : 0 < s.quiet) :
    let found := regex.matchFrom s.scanner.skippedCursor
    ∃ trace, en.eval (room + 1) (.ofRegex regex) s =
      .ok (found.map fun m => .one (.text m.text)) { s with
        scanner := s.scanner.reset (found.elim s.scanner.cursor (·.stop))
        fuel := s.fuel - 1
        trace := trace } := by
  intro found
  obtain ⟨trace, heval⟩ :=
    eval_pattern (e := .ofRegex regex) en room rfl hfuel (Eq.refl found)
  refine ⟨trace, heval.trans ?_⟩
  rw [if_pos hquiet]
  cases found with
  | some m => rfl
  | none => rfl

/-- A typed leaf over a pattern matches where the pattern does and the text of the match
has a value. -/
theorem eval_convert_pattern (en : Engine σ) (room : Nat)
    (hkind : e.kind = .convert (.ofRegex regex) name f) (hfuel : 2 ≤ s.fuel)
    {found : Option Regex.Match} (hfound : regex.matchFrom s.scanner.skippedCursor = found) :
    (∀ m v, found = some m → f m.text = some v → ∃ trace,
        en.eval (room + 2) e s = .ok (some ((Contribution.one v).decorate e.decor))
          { s with scanner := s.scanner.reset m.stop, fuel := s.fuel - 2, trace := trace }) ∧
      ((∀ m, found = some m → f m.text = none) → ∃ trace,
        en.eval (room + 2) e s = .ok none { s with
          fuel := s.fuel - 2
          furthest := if 0 < s.quiet then s.furthest
            else s.furthest.record s.scanner.skippedCursor fun _ => e.label
          trace := trace }) := by
  have hpaid : (s.openedLeaf en.tracer e).fuel ≠ 0 := Nat.sub_ne_zero_of_lt hfuel
  obtain ⟨trace, hchild⟩ := eval_pattern_of_quiet en room regex hpaid (Nat.succ_pos s.quiet)
  have hsame : (s.openedLeaf en.tracer e).scanner.skippedCursor = s.scanner.skippedCursor := rfl
  rw [hsame, hfound] at hchild
  constructor
  · rintro m v rfl hvalue
    exact eval_convert_of_some hkind hchild hvalue
  · intro hnone
    refine eval_convert_of_none hkind hchild ?_
    cases found with
    | none => rfl
    | some m => exact hnone m rfl

/-- A typed leaf takes fuel and room for its child as well. -/
theorem eval_convert_of_spent {child : Element} (hkind : e.kind = .convert child name f)
    (hspent : room < 2 ∨ s.fuel < 2) :
    ∃ error t, en.eval room e s = .error error t ∧ error.isNoMatch = false := by
  cases room with
  | zero => exact eval_of_spent en e (.inl rfl)
  | succ room =>
    by_cases hfuel : s.fuel = 0
    · exact eval_of_spent en e (.inr hfuel)
    · have hchild : room = 0 ∨ (s.openedLeaf en.tracer e).fuel = 0 :=
        hspent.imp (by omega) fun h => Nat.sub_eq_zero_of_le (by omega)
      obtain ⟨error, t, heval, hno⟩ := eval_of_spent en child hchild
      exact ⟨error, t, eval_convert_of_error hkind hfuel heval, hno⟩

end Leaf

/-- The value of whole numbers, read from the text of a match. -/
def Element.readWhole (text : String) : Option Value :=
  (Decimal.readInteger? text.toList).map .integer

theorem Element.label_of_integer {e : Element} (h : e.kind = Element.integer.kind) :
    e.label = e.id?.getD "integer" := by
  have hdisplay : displayKind Element.integer.kind = "integer" := rfl
  unfold label
  rw [h, id?]
  cases e.decor.id with
  | some id => rfl
  | none => exact hdisplay

/-- The match of the pattern for whole numbers is the longest numeral. -/
theorem Regex.matchFrom_of_isLongest {c : Cursor} {word : List Char} (h : IsLongest c.after word) :
    ∃ m, whole.matchFrom c = some m ∧ m.text = String.ofList word ∧ c.Passes m.stop word := by
  obtain ⟨stop, hsearch, hpasses⟩ := search_of_isLongest h
  have hmatch : whole.matchFrom c = some ⟨c, stop, whole.names, []⟩ :=
    congrArg (Option.map _) hsearch
  exact ⟨_, hmatch, congrArg String.ofList hpasses.upTo_eq, hpasses⟩

theorem Regex.matchFrom_of_no_numeral {c : Cursor} (h : ∀ word, ¬ IsLongest c.after word) :
    whole.matchFrom c = none :=
  congrArg (Option.map _) (search_eq_none h)

theorem Element.readWhole_eq_some_iff {word : List Char} (h : IsWhole word) {n : Int} :
    readWhole (String.ofList word) = some (.integer n) ↔
      Denotes word n ∧ -2 ^ 63 ≤ n ∧ n ≤ 2 ^ 63 - 1 := by
  rw [← readInteger?_eq_some_iff h, readWhole, String.toList_ofList]
  simp

/-- Where a value is read from a match, the longest numeral stands for a number that fits. -/
theorem Element.exists_of_readWhole {c : Cursor} {m : Regex.Match} {v : Value}
    (hmatch : Regex.whole.matchFrom c = some m) (hread : readWhole m.text = some v) :
    ∃ word n, IsLongest c.after word ∧ Denotes word n ∧ -2 ^ 63 ≤ n ∧ n ≤ 2 ^ 63 - 1 := by
  by_cases hlongest : ∃ word, IsLongest c.after word
  · obtain ⟨word, hlongest⟩ := hlongest
    obtain ⟨m', hmatch', htext, -⟩ := Regex.matchFrom_of_isLongest hlongest
    obtain rfl : m' = m := Option.some.inj (hmatch'.symm.trans hmatch)
    obtain ⟨n, -, rfl⟩ := Option.map_eq_some_iff.mp hread
    have hvalue := (readWhole_eq_some_iff hlongest.whole).mp (htext ▸ hread)
    exact ⟨word, n, hlongest, hvalue⟩
  · have hnothing := Regex.matchFrom_of_no_numeral (not_exists.mp hlongest)
    cases hnothing.symm.trans hmatch

/-- A whole number matches exactly where the longest numeral has digits of ASCII alone and
denotes a signed number of 64 bits, and then it takes all of the numeral. Where it fails, the
cursor stays, and outside of typed leaves its own label is all that is noted, behind the
skipped characters. Too little room or fuel ends the whole parse instead. -/
theorem integer_matches_longest_numeral (en : Engine σ) (room : Nat) (e : Element) (s : State σ)
    (hkind : e.kind = Element.integer.kind) :
    let start := s.scanner.skippedCursor
    let Fits (word : List Char) (n : Int) : Prop :=
      IsLongest start.after word ∧ Denotes word n ∧ -2 ^ 63 ≤ n ∧ n ≤ 2 ^ 63 - 1
    (∃ regex, Regex.compile "[-+]?\\d+" = .ok regex ∧
        e.kind = .convert (.ofRegex regex) (some "integer") Element.readWhole) ∧
      (2 ≤ room → 2 ≤ s.fuel →
        (∀ word n, Fits word n → ∃ stop trace, start.Passes stop word ∧
            en.eval room e s = .ok (some ((Contribution.one (.integer n)).decorate e.decor))
              { s with scanner := s.scanner.reset stop, fuel := s.fuel - 2, trace := trace }) ∧
          ((¬ ∃ word n, Fits word n) → ∃ trace, en.eval room e s = .ok none { s with
            fuel := s.fuel - 2
            furthest := if 0 < s.quiet then s.furthest
              else s.furthest.record start fun _ => e.id?.getD "integer"
            trace := trace })) ∧
      (room < 2 ∨ s.fuel < 2 →
        ∃ error t, en.eval room e s = .error error t ∧ error.isNoMatch = false) := by
  intro start Fits
  refine ⟨⟨.whole, Regex.compile_whole, hkind⟩, ?_, ?_⟩
  · intro hroom hfuel
    obtain ⟨room, rfl⟩ := Nat.exists_eq_add_of_le' hroom
    have hleaf := eval_convert_pattern en room hkind hfuel rfl
    rw [Element.label_of_integer hkind] at hleaf
    constructor
    · rintro word n ⟨hlongest, hvalue⟩
      obtain ⟨m, hmatch, htext, hpasses⟩ := Regex.matchFrom_of_isLongest hlongest
      have hread : Element.readWhole m.text = some (.integer n) :=
        htext ▸ (Element.readWhole_eq_some_iff hlongest.whole).mpr hvalue
      obtain ⟨trace, heval⟩ := hleaf.1 m _ hmatch hread
      exact ⟨m.stop, trace, hpasses, heval⟩
    · intro hnone
      refine hleaf.2 fun m hmatch => ?_
      -- A value that is read from a match would make the numeral fit.
      by_contra hread
      obtain ⟨v, hread⟩ := Option.ne_none_iff_exists'.mp hread
      exact hnone (Element.exists_of_readWhole hmatch hread)
  · exact eval_convert_of_spent hkind

/-- The least number may have zeros in front. A digit of another script belongs to the
numeral, and spoils it. -/
theorem integer_matches_least_number :
    let en : Engine Unit := ⟨[], {}, .silent⟩
    let least : State Unit := Grammar.startState {} "  -009223372036854775808;".toList ()
    let mixed : State Unit := Grammar.startState {} " 12٣".toList ()
    (∃ t, en.eval 2 Element.integer least = .ok (some (.one (.integer (-2 ^ 63)))) t ∧
        t.scanner.remaining = [';']) ∧
      ∃ t, en.eval 2 (Element.integer.withId "n") mixed = .ok none t ∧
        t.scanner.position = 0 ∧ t.furthest.expected = ["n"] ∧ t.furthest.cursor.offset = 1 := by
  intro en least mixed
  let digits := "009223372036854775808".toList
  have hleast : Split least.scanner.skippedCursor.after ['-'] digits [';'] := {
    ahead_eq := by decide +kernel
    sign_mem := by simp
    digits_ne := by decide
    digits_all := List.all_eq_true.mp (by decide +kernel)
    stops := by
      rintro x ⟨⟩
      decide +kernel }
  have hmixed : Split mixed.scanner.skippedCursor.after [] ['1', '2', '٣'] [] := {
    ahead_eq := by decide +kernel
    sign_mem := by simp
    digits_ne := by simp
    digits_all := List.all_eq_true.mp (by decide +kernel)
    stops := nofun }
  constructor
  · have hvalue : value digits = 2 ^ 63 := by decide +kernel
    have hdenotes : Denotes ('-' :: digits) (-2 ^ 63) := by
      have hminus := Denotes.minus digits (List.all_eq_true.mp (by decide +kernel))
      rwa [hvalue] at hminus
    obtain ⟨-, hmatches, -⟩ := integer_matches_longest_numeral en 2 .integer least rfl
    obtain ⟨stop, trace, hpasses, heval⟩ := (hmatches (by decide) (by decide)).1 _ _
      ⟨hleast.isLongest, hdenotes, by decide, by decide⟩
    have hrest : stop.after = [';'] :=
      List.append_cancel_left (hpasses.after_eq.symm.trans hleast.ahead_eq)
    exact ⟨_, heval, hrest⟩
  · obtain ⟨-, hmatches, -⟩ := integer_matches_longest_numeral en 2 (Element.integer.withId "n")
      mixed rfl
    have hnone : ¬ ∃ word n, IsLongest mixed.scanner.skippedCursor.after word ∧ Denotes word n ∧
        -2 ^ 63 ≤ n ∧ n ≤ 2 ^ 63 - 1 := by
      rintro ⟨word, n, hlongest, hdenotes, -⟩
      obtain rfl := hlongest.unique hmixed.isLongest
      have hascii := (denotes_iff.mp hdenotes).1 '٣' (by decide)
      exact absurd hascii (by decide)
    obtain ⟨trace, heval⟩ := (hmatches (by decide) (by decide)).2 hnone
    exact ⟨_, heval, rfl, rfl, rfl⟩

end Peg
