import Mathlib.Data.List.Forall2
import Peg.Parse.Leaf

/-!
Contributions, by rules.

The rules tell what a contribution adds to the list of its parent, what becomes of it
by the decorations of its element, and what the match of a pattern gives. Each relation
is the graph of the function that the evaluation computes it with.
-/
namespace Peg.BigStep

/-- The values that a contribution adds to the list of its parent. -/
inductive Adds : Contribution → List Value → Prop
  | nothing : Adds .nothing []
  | one (v : Value) : Adds (.one v) [v]
  | splice (vs : List Value) : Adds (.splice vs) vs

/-- A list of one item gives way to the item, and the items of any other list go to the
parent of the list. What is not a list stays as it is. -/
inductive Flattens : Contribution → Contribution → Prop
  | single (v : Value) : Flattens (.one (.list [v])) (.one v)
  | several {vs : List Value} (many : vs.length ≠ 1) : Flattens (.one (.list vs)) (.splice vs)
  | other {out : Contribution} (unlisted : ∀ vs, out ≠ .one (.list vs)) : Flattens out out

/-- A stripped element contributes nothing, whether it is flattened or not. A label is of
no account. -/
inductive Decorates (d : Decor) : Contribution → Contribution → Prop
  | stripped (out : Contribution) (strips : d.stripped = true) : Decorates d out .nothing
  | flattened {out flat : Contribution} (keeps : d.stripped = false)
      (unnests : d.flattened = true) (flattens : Flattens out flat) : Decorates d out flat
  | plain (out : Contribution) (keeps : d.stripped = false) (nests : d.flattened = false) :
      Decorates d out out

/-- The value of a group: its text, or null if it took no part in the match. -/
inductive Fills : Option String → Value → Prop
  | text (t : String) : Fills (some t) (.text t)
  | absent : Fills none .null

/-- What the match of a pattern gives: its text, or an object with a field for each group
that has a name. If there are none, all groups have fields, with their numbers for names. -/
inductive Gives (m : Regex.Match) : Capture → Value → Prop
  | text : Gives m .text (.text m.text)
  | named {fields : List (String × Value)} (present : m.named ≠ [])
      (filled : List.Forall₂ (fun group field => field.1 = group.1 ∧ Fills group.2 field.2)
        m.named fields) : Gives m .groups (.object fields)
  | numbered {fields : List (String × Value)} (absent : m.named = [])
      (filled : List.Forall₂ (fun group field =>
        field.1 = toString (group.2 + 1) ∧ Fills group.1 field.2) m.positional.zipIdx fields) :
      Gives m .groups (.object fields)

theorem adds_iff {out : Contribution} {own : List Value} : Adds out own ↔ own = out.items := by
  constructor
  · rintro (_ | _ | _) <;> rfl
  · rintro rfl
    cases out with
    | nothing => exact .nothing
    | one v => exact .one v
    | splice vs => exact .splice vs

theorem adds_items (out : Contribution) : Adds out out.items :=
  adds_iff.mpr rfl

theorem flattens_iff {out flat : Contribution} : Flattens out flat ↔ flat = out.flatten := by
  constructor
  · intro h
    cases h with
    | single v => rfl
    | @several vs many =>
      -- Only a list of just one item is treated by the first case of the function.
      match vs with
      | [] | _ :: _ :: _ => rfl
      | [_] => exact absurd rfl many
    | other unlisted =>
      match out with
      | .nothing | .splice _ | .one .null | .one (.text _) | .one (.integer _)
      | .one (.float _) | .one (.object _) => rfl
      | .one (.list vs) => exact absurd rfl (unlisted vs)
  · rintro rfl
    match out with
    | .one (.list [v]) => exact .single v
    | .one (.list []) | .one (.list (_ :: _ :: _)) => exact .several nofun
    | .nothing | .splice _ | .one .null | .one (.text _) | .one (.integer _)
    | .one (.float _) | .one (.object _) => exact .other nofun

theorem decorates_iff {d : Decor} {out shown : Contribution} :
    Decorates d out shown ↔ shown = out.decorate d := by
  unfold Contribution.decorate
  constructor
  · intro h
    cases h with
    | stripped strips => rw [if_pos strips]
    | flattened keeps unnests flattens =>
      rw [keeps, unnests]
      exact flattens_iff.mp flattens
    | plain keeps nests =>
      rw [keeps, nests]
      rfl
  · rintro rfl
    cases hstripped : d.stripped with
    | true => exact .stripped out hstripped
    | false =>
      cases hflattened : d.flattened with
      | true => exact .flattened hstripped hflattened (flattens_iff.mpr rfl)
      | false => exact .plain out hstripped hflattened

theorem fills_iff {text : Option String} {v : Value} :
    Fills text v ↔ v = text.elim .null .text := by
  constructor
  · rintro (_ | _) <;> rfl
  · rintro rfl
    cases text with
    | none => exact .absent
    | some t => exact .text t

/-- Fields that are filled one by one are an image of the groups. -/
theorem forall₂_fills_iff {α : Type} {name : α → String} {text : α → Option String}
    {xs : List α} {fields : List (String × Value)} :
    List.Forall₂ (fun x field => field.1 = name x ∧ Fills (text x) field.2) xs fields ↔
      fields = xs.map fun x => (name x, (text x).elim .null .text) := by
  -- For one field the rules say that it is the image of its group.
  have hfield : ∀ (x : α) (field : String × Value), (field.1 = name x ∧ Fills (text x) field.2) ↔
      (name x, (text x).elim .null .text) = field := by
    intro x field
    rw [fills_iff, Prod.ext_iff, eq_comm (a := field.1), eq_comm (a := field.2)]
  simp only [hfield]
  rw [← List.forall₂_map_left_iff, List.forall₂_eq_eq_eq, eq_comm]

theorem gives_iff {m : Regex.Match} {capture : Capture} {v : Value} :
    Gives m capture v ↔ v = capture.value m := by
  constructor
  · intro h
    cases h with
    | text => rfl
    | named present filled =>
      have hnamed : ¬ m.named.isEmpty = true := by simpa using present
      rw [forall₂_fills_iff.mp filled]
      exact (if_neg hnamed).symm
    | numbered absent filled =>
      have hnone : m.named.isEmpty = true := by simpa using absent
      rw [forall₂_fills_iff.mp filled]
      exact (if_pos hnone).symm
  · rintro rfl
    cases capture with
    | text => exact .text
    | groups =>
      change Gives m .groups (groupsValue m)
      unfold groupsValue
      dsimp only
      split
      · next hnone => exact .numbered (List.isEmpty_iff.mp hnone) (forall₂_fills_iff.mpr rfl)
      · next hsome =>
        have hnamed : m.named ≠ [] := by simpa using hsome
        exact .named hnamed (forall₂_fills_iff.mpr rfl)

end Peg.BigStep
