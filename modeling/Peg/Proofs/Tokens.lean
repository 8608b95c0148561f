import Peg.Grammar.Combinator
import Peg.Proofs.Passage
import Peg.Proofs.Soundness

/-!
No token is lost, repeated or moved.

Where no element is stripped or converted, the texts in the value of a parse,
read from left to right, are just what was matched: with nothing but skipped
characters around them they make up the text up to the end of the match.
-/
namespace Peg

mutual

/-- The texts in a value, from left to right through all lists. -/
def Value.texts : Value → List String
  | .text s => [s]
  | .list items => Value.textsAmong items
  | .null | .integer _ | .float _ | .object _ => []

/-- The texts in several values. -/
def Value.textsAmong : List Value → List String
  | [] => []
  | v :: rest => v.texts ++ Value.textsAmong rest

end

/-- The words follow each other in the text, with nothing but gaps before,
between and behind them. -/
inductive Woven (gap : Char → Bool) : List String → List Char → Prop
  | last {blank : List Char} (isGap : ∀ x ∈ blank, gap x = true) : Woven gap [] blank
  | word {blank rest : List Char} {word : String} {words : List String}
      (isGap : ∀ x ∈ blank, gap x = true) (others : Woven gap words rest) :
      Woven gap (word :: words) (blank ++ (word.toList ++ rest))

/-- Whether what an element matches stands in the result as it is: it is not
stripped, and it is no typed leaf and no pattern for groups. -/
def Element.isVerbatim (e : Element) : Bool :=
  !e.isStripped && match e.kind with
    | .pattern _ .groups | .convert _ _ _ => false
    | _ => true

namespace Element

mutual

/-- Whether all elements of a tree pass a test. -/
def all (test : Element → Bool) : Element → Bool
  | node decor kind => test (node decor kind) && allBelow test kind

/-- Whether all elements below a kind pass a test. -/
def allBelow (test : Element → Bool) : Kind Element → Bool
  | .sequence children => allAmong test children
  | .alternation children => allAmong test children
  | .repetition child _ _ => child.all test
  | .separated item separator _ _ => item.all test && separator.all test
  | .convert child _ _ => child.all test
  | .rule _ _ body => body.all test
  | .literal _ | .pattern _ _ | .endOfInput | .backref _ _ => true

/-- Whether all elements of several trees pass a test. -/
def allAmong (test : Element → Bool) : List Element → Bool
  | [] => true
  | e :: rest => e.all test && allAmong test rest

end

variable {test : Element → Bool}

theorem test_of_all {e : Element} (h : e.all test = true) : test e = true := by
  cases e with
  | node decor kind =>
    rw [all, Bool.and_eq_true] at h
    exact h.1

theorem all_of_allAmong {es : List Element} (h : allAmong test es = true) :
    ∀ e ∈ es, e.all test = true := by
  induction es with
  | nil => simp
  | cons e rest ih =>
    rw [allAmong, Bool.and_eq_true] at h
    intro d hd
    rcases List.mem_cons.mp hd with rfl | hd
    · exact h.1
    · exact ih h.2 d hd

theorem all_of_mem_children {e d : Element} (h : e.all test = true) (hd : d ∈ e.children) :
    d.all test = true := by
  cases e with
  | node decor kind =>
    rw [all, Bool.and_eq_true] at h
    have hbelow := h.2
    change d ∈ kind.children at hd
    cases kind with
    | sequence children => exact all_of_allAmong hbelow d hd
    | alternation children => exact all_of_allAmong hbelow d hd
    | repetition child min max => exact List.mem_singleton.mp hd ▸ hbelow
    | separated item separator min max =>
      rw [allBelow, Bool.and_eq_true] at hbelow
      rcases List.mem_cons.mp hd with rfl | hd
      · exact hbelow.1
      · exact List.mem_singleton.mp hd ▸ hbelow.2
    | convert child name f => exact List.mem_singleton.mp hd ▸ hbelow
    | rule key name body => exact List.mem_singleton.mp hd ▸ hbelow
    | literal _ | pattern _ _ | endOfInput | backref _ _ => simp [Kind.children] at hd

end Element

namespace Grammar

/-- The elements that a run can come to: the root, the children of such elements
and the rules that back-references lead to. -/
inductive Uses (g : Grammar) : Element → Prop
  | root : Uses g g.root
  | child {e d : Element} (parent : Uses g e) (mem : d ∈ e.children) : Uses g d
  | rule {e d : Element} {name : String} {target : Nat} (reference : Uses g e)
      (kind : e.kind = .backref name target) (held : g.rules.lookup target = some d) : Uses g d

/-- All elements that a run can come to leave what they match as it is. -/
def Verbatim (g : Grammar) : Prop :=
  ∀ e, g.Uses e → e.isVerbatim = true

/-- A test that all elements of the root and of the rules pass is passed by all
elements that a run can come to. -/
theorem Uses.passes {g : Grammar} {test : Element → Bool} (hroot : g.root.all test = true)
    (hrules : (g.rules.all fun (_, e) => e.all test) = true) {e : Element} (he : g.Uses e) :
    test e = true := by
  apply Element.test_of_all
  induction he with
  | root => exact hroot
  | child _ mem ih => exact Element.all_of_mem_children ih mem
  | @rule _ d _ target _ _ held _ =>
    obtain ⟨before, after, heq, -⟩ := List.lookup_eq_some_iff.mp held
    have hmem : (target, d) ∈ g.rules := by simp [heq]
    exact List.all_eq_true.mp hrules _ hmem

end Grammar

namespace Value

theorem textsAmong_append (vs us : List Value) :
    textsAmong (vs ++ us) = textsAmong vs ++ textsAmong us := by
  induction vs with
  | nil => rfl
  | cons v vs ih => simp [textsAmong, ih]

theorem textsAmong_singleton (v : Value) : textsAmong [v] = v.texts := by
  simp [textsAmong]

end Value

namespace Contribution

open Value

theorem texts_flatten (out : Contribution) :
    textsAmong out.flatten.items = textsAmong out.items := by
  unfold flatten
  split
  · simp [items, textsAmong, texts]
  · simp [items, textsAmong, texts]
  · rfl

/-- Decorations that do not strip an element keep its texts. -/
theorem texts_decorate (out : Contribution) {d : Decor} (h : d.stripped = false) :
    textsAmong (out.decorate d).items = textsAmong out.items := by
  unfold decorate
  rw [h, if_neg Bool.false_ne_true]
  split
  · exact texts_flatten out
  · rfl

theorem texts_toValue (out : Contribution) (unwrap : Bool) :
    (out.toValue unwrap).texts = textsAmong out.items := by
  unfold toValue
  split
  · rfl
  · rfl
  · cases unwrap with
    | false => simp [items, textsAmong, texts]
    | true => simp [items, textsAmong, texts]
  · simp [items, textsAmong]

end Contribution

namespace Woven

variable {gap : Char → Bool} {words words' : List String} {text text' : List Char}

theorem behind_gap {blank : List Char} (hblank : ∀ x ∈ blank, gap x = true)
    (h : Woven gap words text) : Woven gap words (blank ++ text) := by
  have hgaps : ∀ {blank' : List Char}, (∀ x ∈ blank', gap x = true) →
      ∀ x ∈ blank ++ blank', gap x = true := by
    intro blank' hblank' x hx
    rcases List.mem_append.mp hx with hx | hx
    · exact hblank x hx
    · exact hblank' x hx
  cases h with
  | last isGap => exact last (hgaps isGap)
  | word isGap others =>
    rw [← List.append_assoc]
    exact word (hgaps isGap) others

theorem append (h : Woven gap words text) (h' : Woven gap words' text') :
    Woven gap (words ++ words') (text ++ text') := by
  induction h with
  | last isGap => exact behind_gap isGap h'
  | word isGap _ ih =>
    simp only [List.append_assoc, List.cons_append]
    exact word isGap ih

/-- Without gaps the words are all that there is. -/
theorem eq_flatten (h : Woven gap words text) (hgap : ∀ x, gap x = false) :
    text = (words.map String.toList).flatten := by
  have hnone : ∀ {blank : List Char}, (∀ x ∈ blank, gap x = true) → blank = [] := by
    intro blank hblank
    apply List.eq_nil_iff_forall_not_mem.mpr
    intro x hx
    have htrue := hblank x hx
    rw [hgap x] at htrue
    cases htrue
  induction h with
  | last isGap => exact hnone isGap
  | word isGap _ ih => simp [hnone isGap, ← ih]

end Woven

namespace BigStep

variable {g : Grammar} {k : Context}

/-- The text from `c` to `d` consists of the texts in some values, with skipped
characters around them. -/
def Spelled (k : Context) (c d : Cursor) (vs : List Value) : Prop :=
  ∃ word, c.Passes d word ∧ Woven (inSkip k.skip) (Value.textsAmong vs) word

namespace Spelled

variable {c d e : Cursor} {vs us : List Value}

theorem nil (c : Cursor) : Spelled k c c [] :=
  ⟨[], Cursor.Passes.refl c, Woven.last (by simp)⟩

theorem append (h : Spelled k c d vs) (h' : Spelled k d e us) : Spelled k c e (vs ++ us) := by
  obtain ⟨word, hpasses, hwoven⟩ := h
  obtain ⟨word', hpasses', hwoven'⟩ := h'
  refine ⟨word ++ word', hpasses.trans hpasses', ?_⟩
  rw [Value.textsAmong_append]
  exact hwoven.append hwoven'

/-- A list of its own keeps the texts of its items. -/
theorem list (h : Spelled k c d vs) : Spelled k c d [.list vs] := by
  obtain ⟨word, hpasses, hwoven⟩ := h
  exact ⟨word, hpasses, by rwa [Value.textsAmong_singleton]⟩

/-- A token and the characters that are skipped in front of it. -/
theorem token {t : String} (h : (k.skipped c).Passes d t.toList) :
    Spelled k c d [.text t] := by
  obtain ⟨gap, hgap, hskip⟩ := k.passes_skipped c
  refine ⟨gap ++ t.toList, hgap.trans h, ?_⟩
  have hword : Woven (inSkip k.skip) [t] (gap ++ (t.toList ++ [])) :=
    Woven.word hskip (Woven.last (by simp))
  rwa [List.append_nil] at hword

/-- Skipped characters alone. -/
theorem skipped (c : Cursor) : Spelled k c (k.skipped c) [] := by
  obtain ⟨gap, hgap, hskip⟩ := k.passes_skipped c
  exact ⟨gap, hgap, Woven.last hskip⟩

end Spelled

/-- The meaning that tells nothing but that the elements in use spell out what
they match. -/
def Spelling (g : Grammar) (k : Context) : Meaning :=
  fun e c o _ _ => g.Uses e → ∀ out d, o = some (out, d) → Spelled k c d out.items

theorem All.spelled {es : List Element} {c : Cursor} {o : Option (List Value × Cursor)}
    {n h : Nat} (ha : All (Spelling g k) es c o n h) (hes : ∀ e ∈ es, g.Uses e)
    (items : List Value) (d : Cursor) (ho : o = some (items, d)) : Spelled k c d items := by
  induction ha generalizing items with
  | nil c =>
    obtain ⟨rfl, rfl⟩ : [] = items ∧ c = d := by simpa using ho
    exact Spelled.nil c
  | miss _ => cases ho
  | cons first adds _ ih =>
    obtain rfl := adds_iff.mp adds
    obtain ⟨⟨others, stop⟩, rfl, heq⟩ := Option.map_eq_some_iff.mp ho
    obtain ⟨rfl, rfl⟩ : _ = items ∧ stop = d := by simpa using heq
    have hfirst := first (hes _ (by simp)) _ _ rfl
    have hothers := ih (fun e he => hes e (by simp [he])) others rfl
    exact hfirst.append hothers

theorem First.spelled {es : List Element} {c : Cursor} {o : Outcome} {n h : Nat}
    (hf : First (Spelling g k) es c o n h) (hes : ∀ e ∈ es, g.Uses e) (out : Contribution)
    (d : Cursor) (ho : o = some (out, d)) : Spelled k c d out.items := by
  induction hf with
  | nil c => cases ho
  | hit first => exact first (hes _ (by simp)) _ _ ho
  | next _ _ ih => exact ih (fun e he => hes e (by simp [he])) ho

theorem Rounds.spelled {count total n h : Nat} {child : Element} {most : Option Nat}
    {c stop : Cursor} {items : List Value} (hchild : g.Uses child)
    (hr : Rounds (Spelling g k) count child most c total items stop n h) :
    Spelled k c stop items := by
  induction hr with
  | full c _ => exact Spelled.nil c
  | stop _ _ => exact Spelled.nil _
  | round _ first adds _ _ ih =>
    obtain rfl := adds_iff.mp adds
    exact (first hchild _ _ rfl).append (ih hchild)

theorem More.spelled {count total n h : Nat} {item separator : Element} {most : Option Nat}
    {c stop : Cursor} {items : List Value} (hitem : g.Uses item) (hsep : g.Uses separator)
    (hm : More (Spelling g k) count item separator most c total items stop n h) :
    Spelled k c stop items := by
  induction hm with
  | full c _ => exact Spelled.nil c
  | noSeparator _ _ => exact Spelled.nil _
  | noItem _ _ _ => exact Spelled.nil _
  | still _ _ _ _ => exact Spelled.nil _
  | item _ first second _ separates adds _ ih =>
    obtain rfl := adds_iff.mp separates
    obtain rfl := adds_iff.mp adds
    -- The separator stands in the list only where an item follows it.
    have hothers := (second hitem _ _ rfl).append (ih hitem hsep)
    exact (first hsep _ _ rfl).append hothers

theorem Listed.spelled {total n h : Nat} {item separator : Element} {most : Option Nat}
    {c stop : Cursor} {items : List Value} (hitem : g.Uses item) (hsep : g.Uses separator)
    (hl : Listed (Spelling g k) item separator most c total items stop n h) :
    Spelled k c stop items := by
  cases hl with
  | closed c => exact Spelled.nil c
  | empty _ _ => exact Spelled.nil c
  | item _ first _ adds others =>
    obtain rfl := adds_iff.mp adds
    exact (first hitem _ _ rfl).append (others.spelled hitem hsep)

theorem OfKind.spelled {e : Element} {c : Cursor} {o : Outcome} {n h : Nat}
    (hrules : k.rules = g.rules) (he : g.Uses e) (hverb : e.isVerbatim = true)
    (hk : OfKind (Spelling g k) k e.kind c o n h) (out : Contribution) (d : Cursor)
    (ho : o = some (out, d)) : Spelled k c d out.items := by
  have hchildren : ∀ d ∈ e.kind.children, g.Uses d := fun d hd => he.child hd
  have hreference : ∀ name target d, e.kind = .backref name target →
      k.rules.lookup target = some d → g.Uses d := by
    intro name target d hkind hheld
    rw [hrules] at hheld
    exact he.rule hkind hheld
  unfold Element.isVerbatim at hverb
  generalize e.kind = kind at hk hverb hchildren hreference
  cases hk with
  | literal skips found =>
    obtain rfl := skips_iff.mp skips
    cases ho
    exact Spelled.token found
  | pattern skips found gives =>
    obtain rfl := skips_iff.mp skips
    cases ho
    cases gives with
    | text => exact Spelled.token (Regex.matchFrom_passes found)
    | named _ _ | numbered _ _ => simp at hverb
  | sequence all =>
    obtain ⟨⟨items, stop⟩, rfl, heq⟩ := Option.map_eq_some_iff.mp ho
    cases heq
    exact (all.spelled hchildren items d rfl).list
  | alternation first => exact first.spelled hchildren out d ho
  | repetition rounds _ =>
    cases ho
    exact (rounds.spelled (hchildren _ (by simp [Kind.children]))).list
  | separated listed _ =>
    cases ho
    have hitem := hchildren _ (List.mem_cons_self ..)
    have hsep := hchildren _ (List.mem_cons_of_mem _ (List.mem_cons_self ..))
    exact (listed.spelled hitem hsep).list
  | convert _ _ => simp at hverb
  | endOfInput skips _ =>
    obtain rfl := skips_iff.mp skips
    cases ho
    exact Spelled.skipped c
  | rule inner => exact inner (hchildren _ (by simp [Kind.children])) out d ho
  | backref held inner => exact inner (hreference _ _ _ rfl held) out d ho
  | noLiteral _ _ | noPattern _ _ | fewRounds _ _ | fewItems _ _ | refused _ _ | noConvert _
  | notEnd _ _ => cases ho

/-- What an element in use matches is spelled out by its contribution. -/
theorem Yields.spelled (hrules : k.rules = g.rules) (hg : g.Verbatim) {e : Element}
    {c d : Cursor} {out : Contribution} {n h : Nat} (hy : Yields k e c (some (out, d)) n h)
    (he : g.Uses e) : Spelled k c d out.items := by
  refine Yields.induct (P := Spelling g k) ?_ hy he out d rfl
  intro e c o n h hkind he out d ho
  obtain ⟨⟨out', stop⟩, rfl, heq⟩ := Option.map_eq_some_iff.mp ho
  cases heq
  have hverb := hg e he
  have hspelled := hkind.spelled hrules he hverb out' d rfl
  have hstripped : e.decor.stripped = false := by
    unfold Element.isVerbatim Element.isStripped at hverb
    simp only [Bool.and_eq_true, Bool.not_eq_true'] at hverb
    exact hverb.1
  unfold Spelled at hspelled ⊢
  rwa [Contribution.texts_decorate _ hstripped]

end BigStep

namespace Grammar

open Eval BigStep

/-- The value of a parse comes from a derivation for the root. -/
theorem yields_of_evaluatePrefix {g : Grammar} {settings : Settings} {text : List Char}
    {value : Value} {stop : Nat} (h : g.evaluatePrefix settings text = .ok (value, stop)) :
    ∃ out d n height,
      Yields ⟨g.rules, settings.skip, 0⟩ g.root (Cursor.start text) (some (out, d)) n height ∧
        value = out.toValue g.root.kind.isSequence ∧ stop = d.offset := by
  let en : Engine Unit := ⟨g.rules, settings.limits, .silent⟩
  let s := startState settings text ()
  have hrun : Leads (en.run settings.requireEnd g.root) s (fun r _ => ∃ out d n height,
      Yields ⟨g.rules, settings.skip, 0⟩ g.root (Cursor.start text) (some (out, d)) n height ∧
        r.1 = out.toValue g.root.kind.isSequence ∧ r.2 = d.offset) fun _ _ => True := by
    unfold Engine.run
    rw [leads_bind]
    have hroot := eval_follows (k := contextOf g.rules s) en rfl en.limits.depth g.root s rfl
    refine hroot.mono ?_ fun _ _ _ => trivial
    rintro (_ | out) t ⟨-, n, height, -, -, hyields⟩
    · exact trivial
    · simp only [leads_bind, leads_cursor]
      have hresult : ∃ out' d n height, Yields ⟨g.rules, settings.skip, 0⟩ g.root
          (Cursor.start text) (some (out', d)) n height ∧
            out.toValue g.root.kind.isSequence = out'.toValue g.root.kind.isSequence ∧
            t.scanner.cursor.offset = d.offset :=
        ⟨out, t.scanner.cursor, n, height, hyields, rfl, rfl⟩
      split
      · rw [leads_bind]
        unfold Leads
        split
        · exact hresult
        · exact trivial
      · exact hresult
  unfold evaluatePrefix evaluateWith at h
  dsimp only at h
  split at h
  · cases h
    exact hrun.of_ok ‹_›
  · cases h

end Grammar

/-- No token is lost, repeated or moved: the texts in the value of a parse, with
nothing but skipped characters around them, make up the text up to the end of
the match. Where nothing is skipped they are this text. -/
theorem texts_make_up_match (g : Grammar) (hg : g.Verbatim) (settings : Settings)
    (text : List Char) (value : Value) (stop : Nat)
    (h : g.evaluatePrefix settings text = .ok (value, stop)) :
    ∃ taken rest, text = taken ++ rest ∧ byteLength taken = stop ∧
      Woven (inSkip settings.skip) value.texts taken ∧
      (settings.skip = none → (value.texts.map String.toList).flatten = taken) := by
  obtain ⟨out, d, n, height, hyields, rfl, rfl⟩ := Grammar.yields_of_evaluatePrefix h
  obtain ⟨taken, hpasses, hwoven⟩ := hyields.spelled (g := g) rfl hg Grammar.Uses.root
  rw [← Contribution.texts_toValue out g.root.kind.isSequence] at hwoven
  refine ⟨taken, d.after, hpasses.after_eq, ?_, hwoven, ?_⟩
  · have hoffset := hpasses.offset_eq
    have hstart : (Cursor.start text).offset = 0 := rfl
    omega
  · intro hskip
    refine (hwoven.eq_flatten ?_).symm
    intro x
    simp [inSkip, hskip]

/-- A letter, or any number of these in parentheses with commas between them. -/
def nestedLists : Grammar :=
  let item : Element := .ofKind (.backref "t" 0)
  let list : Element :=
    .sequence [.literal "(", (Element.separatedBy (.literal ",") item 0 none).flatten,
      .literal ")"]
  let rule : Element := .ofKind (.rule (some 0) "t" (.alternation [list, .literal "x"]))
  ⟨.sequence [rule, .endOfInput], [(0, rule)]⟩

/-- Two lists, one in the other, with blanks around some of the tokens. -/
theorem nestedLists_texts :
    let text := [' ', '(', ' ', 'x', ' ', ',', '(', 'x', ' ', ')', ')', ' ']
    ∃ taken rest, text = taken ++ rest ∧ byteLength taken = 12 ∧
      Woven (inSkip (some CharSet.blanks)) ["(", "x", ",", "(", "x", ")", ")"] taken := by
  intro text
  have hrun : (nestedLists.evaluatePrefix {} text).toOption.map
      (fun (value, stop) => (value.texts, stop)) =
        some (["(", "x", ",", "(", "x", ")", ")"], 12) := by
    decide +kernel
  have hverbatim : nestedLists.Verbatim := by
    intro e he
    have hroot : nestedLists.root.all Element.isVerbatim = true := by decide +kernel
    have hrules : (nestedLists.rules.all fun (_, e) => e.all Element.isVerbatim) = true := by
      decide +kernel
    exact he.passes hroot hrules
  cases hresult : nestedLists.evaluatePrefix {} text with
  | error e =>
    rw [hresult] at hrun
    cases hrun
  | ok r =>
    obtain ⟨value, stop⟩ := r
    rw [hresult] at hrun
    obtain ⟨htexts, rfl⟩ : value.texts = _ ∧ stop = 12 := by simpa [Except.toOption] using hrun
    obtain ⟨taken, rest, htext, hlength, hwoven, -⟩ :=
      texts_make_up_match nestedLists hverbatim {} text value 12 hresult
    exact ⟨taken, rest, htext, hlength, htexts ▸ hwoven⟩

end Peg
