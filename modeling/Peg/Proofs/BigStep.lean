import Peg.Proofs.Contribution
import Peg.Proofs.Passage

/-!
The meaning of grammar elements, by rules.

`Yields k e c o n h` says that the element `e` at the cursor `c` has the
outcome `o`, by a derivation of `n` elements whose longest branch has `h` of
them. The rules for the parts of a kind are written over any relation `R` that
gives the meaning of its sub-elements, and `Yields` ties the knot. What is skipped,
what a match adds to the list around it and what the decorations make of it have
rules of their own.
-/
namespace Peg.BigStep

/-- What an element comes to: a contribution and the cursor behind its match,
or nothing if it does not match. -/
abbrev Outcome := Option (Contribution × Cursor)

/-- A meaning of elements, with the size and the height of derivations. -/
abbrev Meaning := Element → Cursor → Outcome → Nat → Nat → Prop

/-- All that the meaning of an element depends on besides the text. -/
structure Context where
  rules : RuleTable
  skip : Option CharSet
  suppressed : Nat

namespace Context

/-- The place at which a literal or a pattern is looked for. -/
def skipped (k : Context) (c : Cursor) : Cursor :=
  match k.skip with
  | some set => if k.suppressed = 0 then c.skipWhile set.contains else c
  | none => c

/-- Whether a character is jumped over in front of a literal or a pattern. -/
def isSkipped (k : Context) (x : Char) : Bool :=
  k.suppressed == 0 && inSkip k.skip x

/-- The text without the skipped characters in front. -/
def trimmed (k : Context) (text : List Char) : List Char :=
  match k.skip with
  | some set => text.dropWhile set.contains
  | none => text

/-- What a typed leaf from `c` to `stop` converts: the text that its child
contributed, or else the text that its child matched. -/
def token (k : Context) (c stop : Cursor) : Contribution → String
  | .one (.text t) => t
  | _ => String.ofList (k.trimmed (c.upTo stop))

theorem skipped_eq (k : Context) (c : Cursor) : k.skipped c = c.skipWhile k.isSkipped := by
  unfold skipped
  cases hskip : k.skip with
  | none =>
    have hnever : ∀ x, k.isSkipped x = false := fun x => by simp [isSkipped, inSkip, hskip]
    exact (Cursor.skipWhile_of_clear fun x _ _ => hnever x).symm
  | some set =>
    by_cases hactive : k.suppressed = 0
    · have hsame : k.isSkipped = set.contains := by
        funext x
        simp [isSkipped, inSkip, hskip, hactive]
      rw [hsame]
      exact if_pos hactive
    · have hnever : ∀ x, k.isSkipped x = false := fun x => by simp [isSkipped, hactive]
      exact (if_neg hactive).trans (Cursor.skipWhile_of_clear fun x _ _ => hnever x).symm

/-- What is jumped over in front of a literal or a pattern. -/
theorem passes_skipped (k : Context) (c : Cursor) :
    ∃ gap, c.Passes (k.skipped c) gap ∧ ∀ x ∈ gap, inSkip k.skip x = true := by
  rw [skipped_eq]
  refine ⟨_, c.passes_skipWhile k.isSkipped, ?_⟩
  intro x hx
  have hskips : k.isSkipped x = true := List.mem_takeWhile_imp hx
  exact (Bool.and_eq_true_iff.mp hskips).2

end Context

/-- From `c` the cursor jumps to `d`, one skipped character after the other, until there
is none ahead. -/
inductive Skips (k : Context) : Cursor → Cursor → Prop
  | jump {c next d : Cursor} {x : Char} (skipped : k.isSkipped x = true)
      (passes : c.Passes next [x]) (others : Skips k next d) : Skips k c d
  | stop {c : Cursor} (clear : ∀ x rest, c.after = x :: rest → k.isSkipped x = false) :
      Skips k c c

theorem skips_skipped (k : Context) (c : Cursor) : Skips k c (k.skipped c) := by
  rw [k.skipped_eq]
  -- By what is ahead of the cursor, of which each jump takes one character off.
  generalize hahead : c.after = ahead
  induction ahead generalizing c with
  | nil =>
    have hclear : ∀ x rest, c.after = x :: rest → k.isSkipped x = false :=
      fun _ _ h => absurd (hahead.symm.trans h) nofun
    rw [Cursor.skipWhile_of_clear hclear]
    exact .stop hclear
  | cons x rest ih =>
    by_cases hx : k.isSkipped x = true
    · rw [Cursor.skipWhile_of_cons hahead hx]
      exact .jump hx (Cursor.passes_step hahead) (ih (c.step x rest) rfl)
    · have hclear : ∀ y rest', c.after = y :: rest' → k.isSkipped y = false := by
        intro y rest' h
        cases hahead.symm.trans h
        exact Bool.eq_false_iff.mpr hx
      rw [Cursor.skipWhile_of_clear hclear]
      exact .stop hclear

theorem skips_iff {k : Context} {c d : Cursor} : Skips k c d ↔ d = k.skipped c := by
  constructor
  · intro h
    rw [k.skipped_eq]
    induction h with
    | @jump c next d x skipped passes _ ih =>
      have hafter : c.after = x :: next.after := passes.after_eq
      rw [Cursor.skipWhile_of_cons hafter skipped, ← passes.eq_step]
      exact ih
    | stop clear => exact (Cursor.skipWhile_of_clear clear).symm
  · rintro rfl
    exact skips_skipped k c

/-- One more item is allowed after `count` of them. -/
def Below (most : Option Nat) (count : Nat) : Prop :=
  ∀ m, most = some m → count < m

section

variable (R : Meaning)

/-- The children of a sequence, one after the other, up to the first that does
not match. -/
inductive All : List Element → Cursor → Option (List Value × Cursor) → Nat → Nat → Prop
  | nil (c : Cursor) : All [] c (some ([], c)) 0 0
  | miss {e : Element} {rest : List Element} {c : Cursor} {n h : Nat}
      (first : R e c none n h) : All (e :: rest) c none n h
  | cons {e : Element} {rest : List Element} {c d : Cursor} {out : Contribution}
      {own : List Value} {o : Option (List Value × Cursor)} {n h n' h' : Nat}
      (first : R e c (some (out, d)) n h) (adds : Adds out own) (others : All rest d o n' h') :
      All (e :: rest) c (o.map fun (items, stop) => (own ++ items, stop)) (n + n') (max h h')

/-- The first alternative that matches. -/
inductive First : List Element → Cursor → Outcome → Nat → Nat → Prop
  | nil (c : Cursor) : First [] c none 0 0
  | hit {e : Element} {rest : List Element} {c d : Cursor} {out : Contribution} {n h : Nat}
      (first : R e c (some (out, d)) n h) : First (e :: rest) c (some (out, d)) n h
  | next {e : Element} {rest : List Element} {c : Cursor} {o : Outcome} {n h n' h' : Nat}
      (first : R e c none n h) (others : First rest c o n' h') :
      First (e :: rest) c o (n + n') (max h h')

/-- An element does not match, or its match does not move the cursor. -/
inductive Idle : Element → Cursor → Nat → Nat → Prop
  | miss {n h : Nat} {e : Element} {c : Cursor} (first : R e c none n h) : Idle e c n h
  | still {n h : Nat} {e : Element} {c d : Cursor} {out : Contribution}
      (first : R e c (some (out, d)) n h) (stays : d.offset ≤ c.offset) : Idle e c n h

/-- A repetition after `count` rounds: how many rounds there are in the end,
the values of the rounds to come, and where the last of them stops. -/
inductive Rounds : Nat → Element → Option Nat → Cursor → Nat → List Value → Cursor →
    Nat → Nat → Prop
  | full {count : Nat} {child : Element} {most : Option Nat} (c : Cursor)
      (enough : ¬ Below most count) : Rounds count child most c count [] c 0 0
  | stop {count n h : Nat} {child : Element} {most : Option Nat} {c : Cursor}
      (below : Below most count) (last : Idle R child c n h) :
      Rounds count child most c count [] c n h
  | round {count total n h n' h' : Nat} {child : Element} {most : Option Nat}
      {c d stop : Cursor} {out : Contribution} {own items : List Value}
      (below : Below most count) (first : R child c (some (out, d)) n h) (adds : Adds out own)
      (moves : c.offset < d.offset)
      (others : Rounds (count + 1) child most d total items stop n' h') :
      Rounds count child most c total (own ++ items) stop (n + n') (max h h')

/-- A separated list after `count` items, in the same terms. A separator counts
only together with an item behind it. -/
inductive More : Nat → Element → Element → Option Nat → Cursor → Nat → List Value → Cursor →
    Nat → Nat → Prop
  | full {count : Nat} {item separator : Element} {most : Option Nat} (c : Cursor)
      (enough : ¬ Below most count) : More count item separator most c count [] c 0 0
  | noSeparator {count n h : Nat} {item separator : Element} {most : Option Nat} {c : Cursor}
      (below : Below most count) (last : R separator c none n h) :
      More count item separator most c count [] c n h
  | noItem {count n h n' h' : Nat} {item separator : Element} {most : Option Nat}
      {c d : Cursor} {sep : Contribution}
      (below : Below most count) (first : R separator c (some (sep, d)) n h)
      (last : R item d none n' h') :
      More count item separator most c count [] c (n + n') (max h h')
  | still {count n h n' h' : Nat} {item separator : Element} {most : Option Nat}
      {c d stop : Cursor} {sep out : Contribution}
      (below : Below most count) (first : R separator c (some (sep, d)) n h)
      (second : R item d (some (out, stop)) n' h') (stays : stop.offset ≤ c.offset) :
      More count item separator most c count [] c (n + n') (max h h')
  | item {count total n h n' h' n'' h'' : Nat} {item separator : Element} {most : Option Nat}
      {c d d' stop : Cursor} {sep out : Contribution} {between own items : List Value}
      (below : Below most count) (first : R separator c (some (sep, d)) n h)
      (second : R item d (some (out, d')) n' h') (moves : c.offset < d'.offset)
      (separates : Adds sep between) (adds : Adds out own)
      (others : More (count + 1) item separator most d' total items stop n'' h'') :
      More count item separator most c total (between ++ (own ++ items)) stop
        (n + n' + n'') (max (max h h') h'')

/-- A separated list from its first item on. -/
inductive Listed : Element → Element → Option Nat → Cursor → Nat → List Value → Cursor →
    Nat → Nat → Prop
  | closed (c : Cursor) {item separator : Element} :
      Listed item separator (some 0) c 0 [] c 0 0
  | empty {n h : Nat} {item separator : Element} {most : Option Nat} {c : Cursor}
      (allowed : most ≠ some 0) (last : Idle R item c n h) :
      Listed item separator most c 0 [] c n h
  | item {total n h n' h' : Nat} {item separator : Element} {most : Option Nat}
      {c d stop : Cursor} {out : Contribution} {own items : List Value}
      (allowed : most ≠ some 0) (first : R item c (some (out, d)) n h)
      (moves : c.offset < d.offset) (adds : Adds out own)
      (others : More R 1 item separator most d total items stop n' h') :
      Listed item separator most c total (own ++ items) stop (n + n') (max h h')

/-- The rules for each kind, before decorations. -/
inductive OfKind (k : Context) : Kind Element → Cursor → Outcome → Nat → Nat → Prop
  | literal {text : String} {c d stop : Cursor} (skips : Skips k c d)
      (found : d.Passes stop text.toList) :
      OfKind k (.literal text) c (some (.one (.text text), stop)) 0 0
  | noLiteral {text : String} {c d : Cursor} (skips : Skips k c d)
      (missing : ∀ stop, ¬ d.Passes stop text.toList) : OfKind k (.literal text) c none 0 0
  | pattern {regex : Regex} {capture : Capture} {c d : Cursor} {m : Regex.Match} {v : Value}
      (skips : Skips k c d) (found : regex.matchFrom d = some m) (gives : Gives m capture v) :
      OfKind k (.pattern regex capture) c (some (.one v, m.stop)) 0 0
  | noPattern {regex : Regex} {capture : Capture} {c d : Cursor} (skips : Skips k c d)
      (missing : regex.matchFrom d = none) : OfKind k (.pattern regex capture) c none 0 0
  | sequence {children : List Element} {c : Cursor} {o : Option (List Value × Cursor)}
      {n h : Nat} (all : All R children c o n h) :
      OfKind k (.sequence children) c
        (o.map fun (items, stop) => (.one (.list items), stop)) n h
  | alternation {children : List Element} {c : Cursor} {o : Outcome} {n h : Nat}
      (first : First R children c o n h) : OfKind k (.alternation children) c o n h
  | repetition {child : Element} {min total : Nat} {most : Option Nat} {c stop : Cursor}
      {items : List Value} {n h : Nat} (rounds : Rounds R 0 child most c total items stop n h)
      (enough : min ≤ total) :
      OfKind k (.repetition child min most) c (some (.one (.list items), stop)) n h
  | fewRounds {child : Element} {min total : Nat} {most : Option Nat} {c stop : Cursor}
      {items : List Value} {n h : Nat} (rounds : Rounds R 0 child most c total items stop n h)
      (few : total < min) : OfKind k (.repetition child min most) c none n h
  | separated {item separator : Element} {min total : Nat} {most : Option Nat} {c stop : Cursor}
      {items : List Value} {n h : Nat}
      (listed : Listed R item separator most c total items stop n h) (enough : min ≤ total) :
      OfKind k (.separated item separator min most) c (some (.one (.list items), stop)) n h
  | fewItems {item separator : Element} {min total : Nat} {most : Option Nat} {c stop : Cursor}
      {items : List Value} {n h : Nat}
      (listed : Listed R item separator most c total items stop n h) (few : total < min) :
      OfKind k (.separated item separator min most) c none n h
  | convert {child : Element} {name : Option String} {f : String → Option Value}
      {c stop : Cursor} {out : Contribution} {v : Value} {n h : Nat}
      (inner : R child c (some (out, stop)) n h) (converts : f (k.token c stop out) = some v) :
      OfKind k (.convert child name f) c (some (.one v, stop)) n h
  | refused {child : Element} {name : Option String} {f : String → Option Value}
      {c stop : Cursor} {out : Contribution} {n h : Nat}
      (inner : R child c (some (out, stop)) n h) (refuses : f (k.token c stop out) = none) :
      OfKind k (.convert child name f) c none n h
  | noConvert {child : Element} {name : Option String} {f : String → Option Value}
      {c : Cursor} {n h : Nat} (inner : R child c none n h) :
      OfKind k (.convert child name f) c none n h
  | endOfInput {c d : Cursor} (skips : Skips k c d) (ended : d.after = []) :
      OfKind k .endOfInput c (some (.nothing, d)) 0 0
  | notEnd {c d : Cursor} (skips : Skips k c d) (more : d.after ≠ []) :
      OfKind k .endOfInput c none 0 0
  | rule {key : Option Nat} {name : String} {body : Element} {c : Cursor} {o : Outcome}
      {n h : Nat} (inner : R body c o n h) : OfKind k (.rule key name body) c o n h
  | backref {name : String} {target : Nat} {e : Element} {c : Cursor} {o : Outcome} {n h : Nat}
      (held : k.rules.lookup target = some e) (inner : R e c o n h) :
      OfKind k (.backref name target) c o n h

end

/-- An element comes to what its kind comes to, decorated. -/
inductive Yields (k : Context) : Element → Cursor → Outcome → Nat → Nat → Prop
  | hit {e : Element} {c stop : Cursor} {out shown : Contribution} {n h : Nat}
      (kind : OfKind (Yields k) k e.kind c (some (out, stop)) n h)
      (decorates : Decorates e.decor out shown) :
      Yields k e c (some (shown, stop)) (n + 1) (h + 1)
  | miss {e : Element} {c : Cursor} {n h : Nat} (kind : OfKind (Yields k) k e.kind c none n h) :
      Yields k e c none (n + 1) (h + 1)

section

variable {R R' : Meaning} {H : Nat}

/-- What `R` derives up to the height `H`, `R'` derives too. -/
def Passes (R R' : Meaning) (H : Nat) : Prop :=
  ∀ e c o n h, h ≤ H → R e c o n h → R' e c o n h

theorem All.mono (hR : Passes R R' H) {es : List Element} {c : Cursor}
    {o : Option (List Value × Cursor)} {n h : Nat} (ha : All R es c o n h) (hH : h ≤ H) :
    All R' es c o n h := by
  induction ha with
  | nil c => exact All.nil c
  | miss first => exact All.miss (hR _ _ _ _ _ hH first)
  | cons first adds _ ih => exact All.cons (hR _ _ _ _ _ (by omega) first) adds (ih (by omega))

theorem First.mono (hR : Passes R R' H) {es : List Element} {c : Cursor} {o : Outcome}
    {n h : Nat} (hf : First R es c o n h) (hH : h ≤ H) : First R' es c o n h := by
  induction hf with
  | nil c => exact First.nil c
  | hit first => exact First.hit (hR _ _ _ _ _ hH first)
  | next first _ ih => exact First.next (hR _ _ _ _ _ (by omega) first) (ih (by omega))

theorem Idle.mono (hR : Passes R R' H) {e : Element} {c : Cursor} {n h : Nat}
    (hi : Idle R e c n h) (hH : h ≤ H) : Idle R' e c n h := by
  cases hi with
  | miss first => exact Idle.miss (hR _ _ _ _ _ hH first)
  | still first stays => exact Idle.still (hR _ _ _ _ _ hH first) stays

theorem Rounds.mono (hR : Passes R R' H) {count total n h : Nat} {child : Element}
    {most : Option Nat} {c stop : Cursor} {items : List Value}
    (hr : Rounds R count child most c total items stop n h) (hH : h ≤ H) :
    Rounds R' count child most c total items stop n h := by
  induction hr with
  | full c enough => exact Rounds.full c enough
  | stop below last => exact Rounds.stop below (last.mono hR hH)
  | round below first adds moves _ ih =>
    exact Rounds.round below (hR _ _ _ _ _ (by omega) first) adds moves (ih (by omega))

theorem More.mono (hR : Passes R R' H) {count total n h : Nat} {item separator : Element}
    {most : Option Nat} {c stop : Cursor} {items : List Value}
    (hm : More R count item separator most c total items stop n h) (hH : h ≤ H) :
    More R' count item separator most c total items stop n h := by
  induction hm with
  | full c enough => exact More.full c enough
  | noSeparator below last => exact More.noSeparator below (hR _ _ _ _ _ hH last)
  | noItem below first last =>
    exact More.noItem below (hR _ _ _ _ _ (by omega) first) (hR _ _ _ _ _ (by omega) last)
  | still below first second stays =>
    exact More.still below (hR _ _ _ _ _ (by omega) first)
      (hR _ _ _ _ _ (by omega) second) stays
  | item below first second moves separates adds _ ih =>
    exact More.item below (hR _ _ _ _ _ (by omega) first)
      (hR _ _ _ _ _ (by omega) second) moves separates adds (ih (by omega))

theorem Listed.mono (hR : Passes R R' H) {total n h : Nat} {item separator : Element}
    {most : Option Nat} {c stop : Cursor} {items : List Value}
    (hl : Listed R item separator most c total items stop n h) (hH : h ≤ H) :
    Listed R' item separator most c total items stop n h := by
  cases hl with
  | closed c => exact Listed.closed c
  | empty allowed last => exact Listed.empty allowed (last.mono hR hH)
  | item allowed first moves adds others =>
    exact Listed.item allowed (hR _ _ _ _ _ (by omega) first) moves adds
      (others.mono hR (by omega))

theorem OfKind.mono (hR : Passes R R' H) {k : Context} {kind : Kind Element} {c : Cursor}
    {o : Outcome} {n h : Nat} (hk : OfKind R k kind c o n h) (hH : h ≤ H) :
    OfKind R' k kind c o n h := by
  cases hk with
  | literal skips found => exact OfKind.literal skips found
  | noLiteral skips missing => exact OfKind.noLiteral skips missing
  | pattern skips found gives => exact OfKind.pattern skips found gives
  | noPattern skips missing => exact OfKind.noPattern skips missing
  | sequence all => exact OfKind.sequence (all.mono hR hH)
  | alternation first => exact OfKind.alternation (first.mono hR hH)
  | repetition rounds enough => exact OfKind.repetition (rounds.mono hR hH) enough
  | fewRounds rounds few => exact OfKind.fewRounds (rounds.mono hR hH) few
  | separated listed enough => exact OfKind.separated (listed.mono hR hH) enough
  | fewItems listed few => exact OfKind.fewItems (listed.mono hR hH) few
  | convert inner converts => exact OfKind.convert (hR _ _ _ _ _ hH inner) converts
  | refused inner refuses => exact OfKind.refused (hR _ _ _ _ _ hH inner) refuses
  | noConvert inner => exact OfKind.noConvert (hR _ _ _ _ _ hH inner)
  | endOfInput skips ended => exact OfKind.endOfInput skips ended
  | notEnd skips more => exact OfKind.notEnd skips more
  | rule inner => exact OfKind.rule (hR _ _ _ _ _ hH inner)
  | backref held inner => exact OfKind.backref held (hR _ _ _ _ _ hH inner)

end

/-- What the kind of an element comes to, the element comes to with its decorations. -/
theorem Yields.node {k : Context} {e : Element} {c : Cursor} {o : Outcome} {n h : Nat}
    (kind : OfKind (Yields k) k e.kind c o n h) :
    Yields k e c (o.map fun (out, stop) => (out.decorate e.decor, stop)) (n + 1) (h + 1) := by
  cases o with
  | none => exact .miss kind
  | some p => exact .hit kind (decorates_iff.mpr rfl)

theorem Yields.exists_kind {k : Context} {e : Element} {c : Cursor} {o : Outcome} {n h : Nat}
    (hy : Yields k e c o n h) : ∃ inner n' h', OfKind (Yields k) k e.kind c inner n' h' ∧
      o = inner.map (fun (out, stop) => (out.decorate e.decor, stop)) ∧
      n = n' + 1 ∧ h = h' + 1 := by
  cases hy with
  | hit kind decorates =>
    obtain rfl := decorates_iff.mp decorates
    exact ⟨_, _, _, kind, rfl, rfl, rfl⟩
  | miss kind => exact ⟨_, _, _, kind, rfl, rfl, rfl⟩

/-- Induction on derivations: what passes from the sub-elements of a kind to
every element of the kind holds of all elements. -/
theorem Yields.induct {k : Context} {P : Meaning}
    (node : ∀ (e : Element) (c : Cursor) (o : Outcome) (n h : Nat), OfKind P k e.kind c o n h →
      P e c (o.map fun (out, stop) => (out.decorate e.decor, stop)) (n + 1) (h + 1))
    {e : Element} {c : Cursor} {o : Outcome} {n h : Nat} (hy : Yields k e c o n h) :
    P e c o n h := by
  induction h using Nat.strongRecOn generalizing e c o n with
  | ind h ih =>
    obtain ⟨inner, n', h', kind, rfl, rfl, rfl⟩ := hy.exists_kind
    -- All derivations of sub-elements are lower than this one.
    apply node
    exact kind.mono (fun _ _ _ _ _ hle => ih _ (Nat.lt_succ_of_le hle)) (Nat.le_refl _)

theorem Yields.size_pos {k : Context} {e : Element} {c : Cursor} {o : Outcome} {n h : Nat}
    (hy : Yields k e c o n h) : 0 < n := by
  cases hy with
  | hit _ _ | miss _ => exact Nat.succ_pos _

/-- The context in which a state of an evaluation stands. -/
def contextOf {σ : Type} (rules : RuleTable) (s : State σ) : Context :=
  ⟨rules, s.scanner.skip, s.scanner.suppressed⟩

end Peg.BigStep
