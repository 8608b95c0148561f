import Peg.Grammar.Element
import Peg.Value.Basic

/-!
What a matched element contributes to the list of its parent.
-/
namespace Peg

/-- The contribution of an element. -/
inductive Contribution where
  /-- The element matched and contributes nothing. -/
  | nothing
  | one (v : Value)
  /-- A flattened list, whose items go to the parent one by one. -/
  | splice (vs : List Value)

namespace Contribution

/-- The values that go into the list of the parent. -/
def items : Contribution → List Value
  | nothing => []
  | one v => [v]
  | splice vs => vs

/-- A list without its own level: a single item, or all items one by one. -/
def flatten : Contribution → Contribution
  | one (.list [v]) => one v
  | one (.list vs) => splice vs
  | out => out

/-- The contribution after the decorations of the element. -/
def decorate (out : Contribution) (d : Decor) : Contribution :=
  if d.stripped then nothing
  else if d.flattened then out.flatten
  else out

/-- The value of a whole parse. With `unwrap`, a list of one item gives way to
that item. -/
def toValue (unwrap : Bool) : Contribution → Value
  | nothing => .list []
  | splice vs => .list vs
  | one (.list [v]) => if unwrap then v else .list [v]
  | one v => v

end Contribution

end Peg
