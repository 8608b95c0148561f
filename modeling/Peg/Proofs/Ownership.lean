import Peg.Grammar.Part

/-!
Who keeps a rule alive.

A back-reference does not hold its rule; only the elements around the rule do.
An assembled element owns, in this sense, every rule that a back-reference in it
leads to, as long as the rule is not still being made. All that puts elements
together keeps it so: what copies an element copies no rule, and what drops an
element keeps its children.
-/
namespace Peg

namespace Element

/-- The first element is the second one or stands somewhere below it, so that
whoever holds the second one holds the first. Back-references lead nowhere. -/
inductive Within : Element → Element → Prop
  | self (e : Element) : Within e e
  | under {e child parent : Element} (mem : child ∈ parent.children)
      (inner : Within e child) : Within e parent

/-- The key of a rule that back-references can reach. -/
def ruleKey? (e : Element) : Option Nat :=
  match e.kind with
  | .rule key _ _ => key
  | _ => none

def isBackref (e : Element) : Bool :=
  match e.kind with
  | .backref _ _ => true
  | _ => false

/-- A back-reference to the rule with this name and key stands in the element. -/
def Refers (e : Element) (name : String) (key : Nat) : Prop :=
  ∃ decor, Within (.node decor (.backref name key)) e

namespace Within

theorem trans {a b c : Element} (hab : Within a b) (hbc : Within b c) : Within a c := by
  induction hbc with
  | self => exact hab
  | under mem _ ih => exact under mem ih

theorem of_child {e child : Element} (h : child ∈ e.children) : Within child e :=
  under h (self child)

/-- What is within an element is the element or within one of its children. -/
theorem cases_child {e parent : Element} (h : Within e parent) :
    e = parent ∨ ∃ child ∈ parent.children, Within e child := by
  cases h with
  | self => exact Or.inl rfl
  | under mem inner => exact Or.inr ⟨_, mem, inner⟩

end Within

theorem Refers.mono {e f : Element} {name : String} {key : Nat} (h : e.Refers name key)
    (hef : e.Within f) : f.Refers name key := by
  obtain ⟨decor, hwithin⟩ := h
  exact ⟨decor, hwithin.trans hef⟩

end Element

namespace RuleTable

/-- The table has a rule with this key. -/
def Has (table : RuleTable) (key : Nat) : Prop :=
  ∃ r, (key, r) ∈ table

variable {s t : RuleTable} {entry : Nat × Element} {key : Nat}

theorem mem_insert {added : Nat × Element} (h : entry ∈ insert t added) :
    entry = added ∨ entry ∈ t := by
  unfold insert at h
  split at h
  · exact Or.inr h
  · exact List.mem_cons.mp h

theorem has_insert_self (t : RuleTable) (entry : Nat × Element) : (insert t entry).Has entry.1 := by
  unfold insert
  split
  · next htaken =>
    obtain ⟨⟨key, r⟩, hmem, hkey⟩ := List.any_eq_true.mp htaken
    have hkey' : key = entry.1 := by simpa using hkey
    exact ⟨r, hkey' ▸ hmem⟩
  · exact ⟨entry.2, List.mem_cons_self⟩

theorem Has.insert (h : t.Has key) (entry : Nat × Element) :
    (RuleTable.insert t entry).Has key := by
  obtain ⟨r, hr⟩ := h
  unfold RuleTable.insert
  split
  · exact ⟨r, hr⟩
  · exact ⟨r, List.mem_cons_of_mem _ hr⟩

theorem mem_foldl_insert (h : entry ∈ s.foldl insert t) : entry ∈ s ∨ entry ∈ t := by
  induction s generalizing t with
  | nil => exact Or.inr h
  | cons first rest ih =>
    rcases ih h with hrest | hinsert
    · exact Or.inl (List.mem_cons_of_mem _ hrest)
    · rcases mem_insert hinsert with rfl | hold
      · exact Or.inl List.mem_cons_self
      · exact Or.inr hold

theorem has_foldl_insert (h : s.Has key ∨ t.Has key) : Has (s.foldl insert t) key := by
  induction s generalizing t with
  | nil =>
    rcases h with ⟨r, hr⟩ | ht
    · cases hr
    · exact ht
  | cons first rest ih =>
    rcases h with ⟨r, hr⟩ | ht
    · rcases List.mem_cons.mp hr with rfl | hrest
      · exact ih (Or.inr (has_insert_self t _))
      · exact ih (Or.inl ⟨r, hrest⟩)
    · exact ih (Or.inr (ht.insert first))

theorem mem_union (h : entry ∈ s.union t) : entry ∈ s ∨ entry ∈ t := by
  cases t with
  | nil => exact Or.inl h
  | cons first rest => exact mem_foldl_insert h

theorem has_union (h : s.Has key ∨ t.Has key) : (s.union t).Has key := by
  cases t with
  | nil =>
    rcases h with hs | ⟨r, hr⟩
    · exact hs
    · cases hr
  | cons first rest => exact has_foldl_insert h

/-- Where a table has a key, and has it for one rule alone, this rule is found. -/
theorem lookup_of_has {r : Element} (h : t.Has key) (hr : ∀ r', (key, r') ∈ t → r' = r) :
    t.lookup key = some r := by
  cases hlookup : t.lookup key with
  | none =>
    obtain ⟨r', hr'⟩ := h
    have hne := List.lookup_eq_none_iff.mp hlookup (key, r') hr'
    simp at hne
  | some r' =>
    obtain ⟨before, after, ht, -⟩ := List.lookup_eq_some_iff.mp hlookup
    rw [hr r' (by simp [ht])]

end RuleTable

namespace Part

theorem mem_rulesAmong {entry : Nat × Element} {parts : List Part}
    (h : entry ∈ rulesAmong parts) : ∃ p ∈ parts, entry ∈ p.rules := by
  induction parts with
  | nil => cases h
  | cons p rest ih =>
    rcases RuleTable.mem_union h with hp | hrest
    · exact ⟨p, List.mem_cons_self, hp⟩
    · obtain ⟨q, hq, hentry⟩ := ih hrest
      exact ⟨q, List.mem_cons_of_mem _ hq, hentry⟩

theorem has_rulesAmong {key : Nat} {p : Part} {parts : List Part} (hp : p ∈ parts)
    (h : p.rules.Has key) : (rulesAmong parts).Has key := by
  induction parts with
  | nil => cases hp
  | cons q rest ih =>
    rcases List.mem_cons.mp hp with rfl | hrest
    · exact RuleTable.has_union (Or.inl h)
    · exact RuleTable.has_union (Or.inr (ih hrest))

/-- An element that is neither a back-reference nor a rule with a key can stand
above any parts that its children are. -/
structure Above (e : Element) (parts : List Part) : Prop where
  children : parts.map element = e.children
  noKey : e.ruleKey? = none
  noBackref : e.isBackref = false

/-- The part owns its rules, where `heap` tells which rule has a key. Its
back-references lead to rules in it, or to the rules in `opened`, which are
still being made around it. -/
inductive Owned (heap : Nat → Option Element) : List (String × Nat) → Part → Prop
  | backref {opened : List (String × Nat)} {name : String} {key : Nat} (decor : Decor)
      (known : (name, key) ∈ opened) :
      Owned heap opened (.ofElement (.node decor (.backref name key)) [])
  | above {opened : List (String × Nat)} {e : Element} {parts : List Part}
      (fits : Above e parts) (each : ∀ p ∈ parts, Owned heap opened p) :
      Owned heap opened (.ofElement e parts)
  | rule {opened : List (String × Nat)} {name : String} {key : Nat} {body : Part}
      (inner : Owned heap ((name, key) :: opened) body)
      (address : heap key = some (Part.rule key name body).element) :
      Owned heap opened (.rule key name body)

/-- What owning comes to: the table of the part has exactly the rules that stand
in its element, and the back-references there have their rules there too. -/
structure Accounts (heap : Nat → Option Element) (opened : List (String × Nat)) (p : Part) :
    Prop where
  held : ∀ key r, (key, r) ∈ p.rules → heap key = some r ∧ r.Within p.element
  listed : ∀ key r, r.ruleKey? = some key → r.Within p.element →
    heap key = some r ∧ p.rules.Has key
  target : ∀ name key, p.element.Refers name key → (name, key) ∈ opened ∨
    ∃ decor body, Element.Within (.node decor (.rule (some key) name body)) p.element

section

variable {heap : Nat → Option Element} {opened : List (String × Nat)} {e : Element}
  {parts : List Part} {p : Part}

/-- The children of an element are within it, with all that is within them. -/
theorem Above.within (h : Above e parts) (hp : p ∈ parts) {r : Element}
    (hr : r.Within p.element) : r.Within e := by
  refine .under ?_ hr
  rw [← h.children]
  exact List.mem_map_of_mem hp

theorem Above.cases_within (h : Above e parts) {r : Element} (hr : r.Within e) :
    r = e ∨ ∃ p ∈ parts, r.Within p.element := by
  rcases hr.cases_child with heq | ⟨child, hchild, hwithin⟩
  · exact Or.inl heq
  · rw [← h.children] at hchild
    obtain ⟨p, hp, rfl⟩ := List.mem_map.mp hchild
    exact Or.inr ⟨p, hp, hwithin⟩

theorem accounts_backref {name : String} {key : Nat} (decor : Decor)
    (known : (name, key) ∈ opened) :
    Accounts heap opened (.ofElement (.node decor (.backref name key)) []) where
  held _ _ h := by cases h
  listed key' r hkey hr := by
    rcases hr.cases_child with rfl | ⟨child, hchild, -⟩
    · cases hkey
    · cases hchild
  target name' key' := by
    rintro ⟨decor', hr⟩
    rcases hr.cases_child with heq | ⟨child, hchild, -⟩
    · cases heq
      exact Or.inl known
    · cases hchild

theorem accounts_above (fits : Above e parts) (each : ∀ p ∈ parts, Accounts heap opened p) :
    Accounts heap opened (.ofElement e parts) where
  held key r h := by
    obtain ⟨p, hp, hr⟩ := mem_rulesAmong h
    obtain ⟨hheap, hwithin⟩ := (each p hp).held key r hr
    exact ⟨hheap, fits.within hp hwithin⟩
  listed key r hkey hr := by
    rcases fits.cases_within hr with rfl | ⟨p, hp, hwithin⟩
    · have hnone := fits.noKey
      rw [hkey] at hnone
      cases hnone
    · obtain ⟨hheap, hhas⟩ := (each p hp).listed key r hkey hwithin
      exact ⟨hheap, has_rulesAmong hp hhas⟩
  target name key := by
    rintro ⟨decor, hr⟩
    rcases fits.cases_within hr with rfl | ⟨p, hp, hwithin⟩
    · exact absurd fits.noBackref (by simp [Element.isBackref, Element.kind])
    · rcases (each p hp).target name key ⟨decor, hwithin⟩ with hopen | ⟨decor', body, hrule⟩
      · exact Or.inl hopen
      · exact Or.inr ⟨decor', body, fits.within hp hrule⟩

theorem accounts_rule {name : String} {key : Nat} {body : Part}
    (inner : Accounts heap ((name, key) :: opened) body)
    (address : heap key = some (Part.rule key name body).element) :
    Accounts heap opened (.rule key name body) where
  held key' r h := by
    rcases RuleTable.mem_insert h with heq | hr
    · cases heq
      exact ⟨address, .self _⟩
    · obtain ⟨hheap, hwithin⟩ := inner.held key' r hr
      exact ⟨hheap, .under List.mem_cons_self hwithin⟩
  listed key' r hkey hr := by
    rcases hr.cases_child with rfl | ⟨child, hchild, hwithin⟩
    · cases hkey
      exact ⟨address, RuleTable.has_insert_self _ _⟩
    · obtain rfl : child = body.element := List.mem_singleton.mp hchild
      obtain ⟨hheap, hhas⟩ := inner.listed key' r hkey hwithin
      exact ⟨hheap, hhas.insert _⟩
  target name' key' := by
    rintro ⟨decor, hr⟩
    rcases hr.cases_child with heq | ⟨child, hchild, hwithin⟩
    · cases heq
    · obtain rfl : child = body.element := List.mem_singleton.mp hchild
      rcases inner.target name' key' ⟨decor, hwithin⟩ with hopen | ⟨decor', body', hrule⟩
      · -- A reference to the rule that was being made finds it finished now.
        rcases List.mem_cons.mp hopen with heq | hopen
        · cases heq
          exact Or.inr ⟨{}, body.element, .self _⟩
        · exact Or.inl hopen
      · exact Or.inr ⟨decor', body', .under List.mem_cons_self hrule⟩

theorem Owned.accounts (h : Owned heap opened p) : Accounts heap opened p := by
  induction h with
  | backref decor known => exact accounts_backref decor known
  | above fits _ ih => exact accounts_above fits ih
  | rule _ address ih => exact accounts_rule ih address

/-- What an owned part consists of is owned too, unless it is a rule, in which
more back-references are allowed. -/
theorem Owned.parts_owned (h : Owned heap opened p) (hkey : p.element.ruleKey? = none) :
    p.parts.map element = p.element.children ∧ ∀ q ∈ p.parts, Owned heap opened q := by
  cases h with
  | backref decor known => exact ⟨rfl, by simp [ofElement, parts]⟩
  | above fits each => exact ⟨fits.children, each⟩
  | rule _ _ => cases hkey

end

section Builders

variable {heap : Nat → Option Element} {opened : List (String × Nat)} {a b p : Part}

/-- What stands in for the left operand when it is extended: its parts, if it is
a node that is to be extended, or else itself. -/
theorem extended_owned {plain : Bool} (ha : Owned heap opened a)
    (hplain : plain = true → a.element.ruleKey? = none) (hb : Owned heap opened b) :
    let parts := (if plain then a.parts else [a]) ++ [b]
    parts.map element = (if plain then a.element.children else [a.element]) ++ [b.element] ∧
      ∀ p ∈ parts, Owned heap opened p := by
  intro parts
  cases plain with
  | false =>
    refine ⟨rfl, ?_⟩
    intro p hp
    rcases List.mem_cons.mp hp with rfl | hp
    · exact ha
    · obtain rfl : p = b := List.mem_singleton.mp hp
      exact hb
  | true =>
    -- The operand itself is dropped, but nothing below it.
    obtain ⟨hchildren, hparts⟩ := ha.parts_owned (hplain rfl)
    refine ⟨by simp [parts, hchildren], ?_⟩
    intro p hp
    rcases List.mem_append.mp hp with hp | hp
    · exact hparts p hp
    · obtain rfl : p = b := List.mem_singleton.mp hp
      exact hb

theorem plus_owned (ha : Owned heap opened a) (hb : Owned heap opened b) :
    Owned heap opened (a.plus b) := by
  have hplain : a.element.isPlainSequence = true → a.element.ruleKey? = none := by
    unfold Element.isPlainSequence Element.ruleKey?
    cases a.element.kind <;> simp [Kind.isSequence]
  obtain ⟨hchildren, hparts⟩ := extended_owned ha hplain hb
  exact .above ⟨hchildren, rfl, rfl⟩ hparts

theorem orElse_owned (ha : Owned heap opened a) (hb : Owned heap opened b) :
    Owned heap opened (a.orElse b) := by
  have hplain : a.element.isPlainAlternation = true → a.element.ruleKey? = none := by
    unfold Element.isPlainAlternation Element.ruleKey?
    cases a.element.kind <;> simp [Kind.isAlternation]
  obtain ⟨hchildren, hparts⟩ := extended_owned ha hplain hb
  exact .above ⟨hchildren, rfl, rfl⟩ hparts

/-- A copy with other decorations owns what is copied: a rule stands below its
copy, and of any other element the children are the same. -/
theorem recast_owned (hp : Owned heap opened p) (edit : Decor → Decor) :
    Owned heap opened (p.recast (p.element.redecorate edit)) := by
  have hself : ∀ q ∈ [p], Owned heap opened q := by simpa using hp
  cases hp with
  | backref decor known => exact .backref (edit decor) known
  | rule _ _ =>
    -- A copied rule would have no key of its own, so it is wrapped.
    exact .above ⟨rfl, rfl, rfl⟩ hself
  | @above _ e parts fits each =>
    obtain ⟨decor, kind⟩ := e
    cases kind with
    | rule key name body => exact .above ⟨rfl, rfl, rfl⟩ hself
    | _ => exact .above ⟨fits.children, fits.noKey, fits.noBackref⟩ each

end Builders

end Part

end Peg
