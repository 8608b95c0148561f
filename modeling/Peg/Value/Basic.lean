/-!
The tree that a parse results in.

Its shape follows the grammar: leaves are matched text or typed values, lists
come from sequences and repetitions, and objects from the groups of a pattern.
-/
namespace Peg

/-- A parse result. -/
inductive Value where
  /-- A group that took no part in the match. -/
  | null
  | text (s : String)
  | integer (n : Int)
  | float (x : Float)
  | list (items : List Value)
  /-- Fields in the order of their declaration. Names may repeat. -/
  | object (fields : List (String × Value))

namespace Value

instance : Inhabited Value := ⟨null⟩

def asText? : Value → Option String
  | text s => some s
  | _ => none

/-- The number as a double, an integer by rounding to the nearest one. -/
def asFloat? : Value → Option Float
  | float x => some x
  | integer n => some (Float.ofInt n)
  | _ => none

def asInteger? : Value → Option Int
  | integer n => some n
  | _ => none

def asList? : Value → Option (List Value)
  | list items => some items
  | _ => none

def isNull : Value → Bool
  | null => true
  | _ => false

/-- The item at a position of a list. -/
def get? (v : Value) (i : Nat) : Option Value :=
  match v with
  | list items => items[i]?
  | _ => none

/-- The item at a position of a list, null where there is none. -/
def getD (v : Value) (i : Nat) : Value :=
  (v.get? i).getD null

/-- The first field of an object with this name. -/
def field? (v : Value) (name : String) : Option Value :=
  match v with
  | object fields => (fields.find? (·.1 == name)).map (·.2)
  | _ => none

/-- The number of items or fields; none for a leaf. -/
def size : Value → Nat
  | list items => items.length
  | object fields => fields.length
  | _ => 0

def isEmpty (v : Value) : Bool :=
  v.size == 0

mutual

/-- Equality by content. Doubles are compared as numbers, so the two zeros are
equal and a value that is not a number differs from itself. -/
def same : Value → Value → Bool
  | null, null => true
  | text s, text t => s == t
  | integer m, integer n => m == n
  | float x, float y => x == y
  | list xs, list ys => sameItems xs ys
  | object xs, object ys => sameFields xs ys
  | _, _ => false

/-- Equality of two lists, item by item. -/
def sameItems : List Value → List Value → Bool
  | [], [] => true
  | x :: xs, y :: ys => x.same y && sameItems xs ys
  | _, _ => false

/-- Equality of two lists of fields, name by name and value by value. -/
def sameFields : List (String × Value) → List (String × Value) → Bool
  | [], [] => true
  | (k, x) :: xs, (l, y) :: ys => k == l && x.same y && sameFields xs ys
  | _, _ => false

end

instance : BEq Value := ⟨same⟩

/-- Whether the value is this text. -/
def isText (v : Value) (s : String) : Bool :=
  v.asText? == some s

/-- Whether the value is a double equal to `x`. An integer is none. -/
def isFloat (v : Value) (x : Float) : Bool :=
  match v with
  | float y => y == x
  | _ => false

/-- Whether the value is this integer. -/
def isInteger (v : Value) (n : Int) : Bool :=
  v.asInteger? == some n

end Value

end Peg
