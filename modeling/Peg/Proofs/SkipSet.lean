import Peg.Proofs.Tandem

/-!
What a run takes from its skip set.

Skipping asks for the characters of the text one by one, and so does the trimming of
the text of a typed leaf. So two skip sets that agree on the characters of the text
give the same run, whatever the sets are built from. Not to skip at all is the same
as to skip a set without members.
-/
namespace Peg

open Eval

variable {σ : Type}

/-- Where sets agree on the text ahead, the same characters are skipped. -/
theorem Cursor.skipWhile_congr {p q : Char → Bool} {c : Cursor}
    (h : ∀ x ∈ c.after, p x = q x) : c.skipWhile p = c.skipWhile q := by
  have hfrom : ∀ (ahead : List Char) (c : Cursor), (∀ x ∈ ahead, p x = q x) →
      skipFrom p c ahead = skipFrom q c ahead := by
    intro ahead
    induction ahead with
    | nil => exact fun _ _ => rfl
    | cons x rest ih =>
      intro c hahead
      have hrest : ∀ y ∈ rest, p y = q y := fun y hy => hahead y (by simp [hy])
      rw [skipFrom, skipFrom, hahead x (by simp), ih (c.step x rest) hrest]
  exact hfrom c.after c h

theorem takeBytes_subset (n : Nat) (text : List Char) : ∀ x ∈ takeBytes n text, x ∈ text := by
  induction text generalizing n with
  | nil => simp [takeBytes]
  | cons y rest ih =>
    intro x hx
    rw [takeBytes] at hx
    split at hx
    · rcases List.mem_cons.mp hx with rfl | hx
      · simp
      · exact List.mem_cons_of_mem y (ih _ x hx)
    · cases hx

theorem dropWhile_congr {p q : Char → Bool} {text : List Char} (h : ∀ x ∈ text, p x = q x) :
    text.dropWhile p = text.dropWhile q := by
  induction text with
  | nil => rfl
  | cons x rest ih =>
    have hrest : rest.dropWhile p = rest.dropWhile q := ih fun y hy => h y (by simp [hy])
    rw [List.dropWhile_cons, List.dropWhile_cons, h x (by simp), hrest]

/-- Two runs on one text are at the same place all the time. -/
def sameText (σ : Type) (text : List Char) (gap gap' : Char → Bool) : Correspondence σ where
  gap := gap
  gap' := gap'
  place c c' := c = c' ∧ c.text = text
  spot c c' := c = c' ∧ c.text = text
  notes := Eq
  seen := Eq

/-- They stay there if what they skip is the same in this text. -/
theorem sameText_lawful {text : List Char} {gap gap' : Char → Bool}
    (h : ∀ x ∈ text, gap x = gap' x) (g : Grammar) (tracer : Tracer σ) :
    (sameText σ text gap gap').Lawful g tracer := by
  have hahead : ∀ c : Cursor, c.text = text → ∀ x ∈ c.after, gap x = gap' x := by
    intro c hc x hx
    apply h x
    rw [← hc]
    exact List.mem_append_right _ hx
  have hskip : ∀ c : Cursor, c.text = text → c.skipWhile gap = c.skipWhile gap' :=
    fun c hc => Cursor.skipWhile_congr (hahead c hc)
  constructor
  case skip =>
    rintro c _ ⟨rfl, hc⟩
    exact ⟨hskip c hc, (c.passes_skipWhile gap).text_eq.trans hc⟩
  case literal =>
    rintro e word - - c _ ⟨rfl, hc⟩
    cases hfound : Scanner.dropWord? word.toList c.after with
    | none => exact .none
    | some rest =>
      have hpast := Cursor.ahead_past (Scanner.dropWord?_eq_some_iff.mp hfound)
      exact .some ⟨rfl, hpast.text_eq.trans hc⟩
  case pattern =>
    rintro e regex capture - - c _ ⟨rfl, hc⟩
    cases hfound : regex.matchFrom c with
    | none => exact .none
    | some m => exact .some ⟨rfl, rfl, (Regex.matchFrom_ahead hfound).text_eq.trans hc⟩
  case text =>
    rintro c _ d _ ⟨rfl, hc⟩ ⟨rfl, -⟩
    apply dropWhile_congr
    intro x hx
    exact hahead c hc x (takeBytes_subset _ _ x hx)
  case success =>
    rintro c _ d _ ⟨rfl, hc⟩ ⟨rfl, -⟩ x _ rfl e
    have hstart : tokenStart gap c d = tokenStart gap' c d := by
      unfold tokenStart
      rw [hskip c hc]
    change tracer.success e (tokenStart gap c d) d.offset x = _
    rw [hstart]
    rfl
  -- For the rest it is enough that the runs are at the same place.
  case endOfInput => exact fun _ _ _ _ hspot => hspot
  case atEnd => exact fun ⟨hsame, _⟩ => congrArg Cursor.atEnd hsame
  case lt_iff =>
    rintro c _ d _ ⟨rfl, -⟩ ⟨rfl, -⟩
    exact Iff.rfl
  case record =>
    rintro f _ rfl c _ ⟨rfl, -⟩ label
    rfl
  case enter | failure =>
    rintro c _ ⟨rfl, -⟩ x _ rfl e
    rfl
  case backtrack =>
    rintro c _ d _ ⟨rfl, -⟩ ⟨rfl, -⟩ x _ rfl
    rfl

/-- Sets that agree on the characters of a text give the same run on it. -/
theorem Grammar.evaluateWith_congr (g : Grammar) (settings : Settings) (skip skip' : Option CharSet)
    (text : List Char) (tracer : Tracer σ) (trace : σ)
    (h : ∀ x ∈ text, inSkip skip x = inSkip skip' x) :
    g.evaluateWith { settings with skip := skip } text tracer trace =
      g.evaluateWith { settings with skip := skip' } text tracer trace := by
  let C := sameText σ text (inSkip skip) (inSkip skip')
  have hC : C.Lawful g tracer := sameText_lawful h g tracer
  have hstart : C.Facing (startState { settings with skip := skip } text trace)
      (startState { settings with skip := skip' } text trace) :=
    ⟨⟨rfl, rfl⟩, rfl, rfl, rfl, rfl, rfl, rfl, rfl, rfl⟩
  have hend := Correspondence.evaluateWith_concluded hC hstart rfl rfl
  generalize g.evaluateWith { settings with skip := skip } text tracer trace = r at hend ⊢
  generalize g.evaluateWith { settings with skip := skip' } text tracer trace = r' at hend ⊢
  cases hend with
  | ok v place seen =>
    obtain ⟨rfl, -⟩ := place
    exact Prod.ext rfl seen
  | fatal _ seen => exact Prod.ext rfl seen
  | noMatch notes seen =>
    cases notes
    exact Prod.ext rfl seen

/-- A run depends on its skip set only through the membership of the characters of the
text: with sets that agree on these, and without a set in place of one that has none of
them, it gives the same result and is observed to do the same. -/
theorem skip_set_counts_by_membership (g : Grammar) (settings : Settings) (text : List Char)
    (tracer : Tracer σ) (trace : σ) :
    (∀ skip skip' : Option CharSet, (∀ x ∈ text, inSkip skip x = inSkip skip' x) →
      g.evaluateWith { settings with skip := skip } text tracer trace =
        g.evaluateWith { settings with skip := skip' } text tracer trace) ∧
    ∀ set : CharSet, (∀ x ∈ text, set.contains x = false) →
      g.evaluateWith { settings with skip := some set } text tracer trace =
        g.evaluateWith { settings with skip := none } text tracer trace := by
  constructor
  · intro skip skip' h
    exact g.evaluateWith_congr settings skip skip' text tracer trace h
  · intro set h
    have hnone : ∀ x ∈ text, inSkip (some set) x = inSkip none x := h
    exact g.evaluateWith_congr settings (some set) none text tracer trace hnone

/-- To skip blanks, or all that is no letter, is the same before letters and blanks, and
so is to skip semicolons, or nothing. -/
theorem blanks_are_no_letters :
    let g : Grammar := ⟨.sequence [.literal "a", .literal "b"], []⟩
    let text := [' ', 'a', ' ', 'b']
    g.evaluateWith { skip := some CharSet.blanks } text .recorder [] =
        g.evaluateWith { skip := some (.complement (CharSet.range 'a' 'z')) } text .recorder [] ∧
      g.evaluateWith { skip := some (CharSet.ofChars ";") } text .recorder [] =
        g.evaluateWith { skip := none } text .recorder [] := by
  intro g text
  let letters := CharSet.range 'a' 'z'
  have hagree : (text.all fun x =>
      inSkip (some CharSet.blanks) x == inSkip (some (.complement letters)) x) = true := by
    decide +kernel
  have hdisjoint : (text.all fun x => !(CharSet.ofChars ";").contains x) = true := by
    decide +kernel
  obtain ⟨hsets, hnone⟩ := skip_set_counts_by_membership g {} text .recorder []
  constructor
  · apply hsets
    intro x hx
    exact eq_of_beq (List.all_eq_true.mp hagree x hx)
  · apply hnone
    intro x hx
    simpa using List.all_eq_true.mp hdisjoint x hx

end Peg
