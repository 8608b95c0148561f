import Peg.Value.Basic

/-!
When two values are the same.

The comparison of values is that of their contents, where doubles are compared as numbers.
Values without doubles are the same only if they are equal.
-/
namespace Peg.Value

mutual

/-- Whether no part of the value is a double. -/
def floatFree : Value → Bool
  | float _ => false
  | list items => floatFreeItems items
  | object fields => floatFreeFields fields
  | _ => true

/-- Whether no part of an item is a double. -/
def floatFreeItems : List Value → Bool
  | [] => true
  | v :: rest => v.floatFree && floatFreeItems rest

/-- Whether no part of a field is a double. -/
def floatFreeFields : List (String × Value) → Bool
  | [] => true
  | (_, v) :: rest => v.floatFree && floatFreeFields rest

end

mutual

/-- The comparison takes a value without doubles for no other value. -/
theorem eq_of_same : ∀ {v w : Value}, v.floatFree = true → v.same w = true → v = w
  | null, null, _, _ => rfl
  | text _, text _, _, h => congrArg text (eq_of_beq h)
  | integer _, integer _, _, h => congrArg integer (eq_of_beq h)
  | list _, list _, hfree, h => congrArg list (eq_of_sameItems hfree h)
  | object _, object _, hfree, h => congrArg object (eq_of_sameFields hfree h)

theorem eq_of_sameItems : ∀ {vs ws : List Value}, floatFreeItems vs = true →
    sameItems vs ws = true → vs = ws
  | [], [], _, _ => rfl
  | v :: vs, w :: ws, hfree, h => by
    obtain ⟨hv, hvs⟩ := Bool.and_eq_true_iff.mp hfree
    obtain ⟨hfirst, hrest⟩ := Bool.and_eq_true_iff.mp h
    rw [eq_of_same hv hfirst, eq_of_sameItems hvs hrest]

theorem eq_of_sameFields : ∀ {fields fields' : List (String × Value)},
    floatFreeFields fields = true → sameFields fields fields' = true → fields = fields'
  | [], [], _, _ => rfl
  | (k, v) :: fields, (l, w) :: fields', hfree, h => by
    obtain ⟨hv, hfields⟩ := Bool.and_eq_true_iff.mp hfree
    obtain ⟨hfirst, hrest⟩ := Bool.and_eq_true_iff.mp h
    obtain ⟨hname, hvalue⟩ := Bool.and_eq_true_iff.mp hfirst
    rw [eq_of_beq hname, eq_of_same hv hvalue, eq_of_sameFields hfields hrest]

end

end Peg.Value
