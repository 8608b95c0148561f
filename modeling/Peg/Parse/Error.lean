import Peg.Scanner.Basic

/-!
Why a parse has no result, and the two limits on its effort.
-/
namespace Peg

/-- The outcome of a parse without a value. -/
inductive ParseError where
  /-- The grammar does not match. The position is the furthest at which a leaf
  failed, and `expected` names the leaves that failed there. -/
  | noMatch (position line column : Nat) (expected : List String)
  /-- More elements were to be evaluated than allowed. -/
  | fuelExhausted (limit : Nat)
  /-- Elements were nested deeper than allowed. -/
  | recursionLimit (limit : Nat)
  /-- A back-reference was reached whose rule is not held any more. -/
  | danglingRule (name : String)
  /-- The mark stack of the scanner was out of balance. -/
  | scanner (e : ScanError)
deriving DecidableEq, Repr

namespace ParseError

/-- The list of what was expected, at the end of a message. -/
def expectation : List String → String
  | [] => ""
  | [only] => ": expected " ++ only
  | labels =>
    ": expected " ++ ", ".intercalate labels.dropLast ++ " or " ++ labels.getLast?.getD ""

def message : ParseError → String
  | noMatch _ line column expected =>
    "no match at " ++ toString line ++ ":" ++ toString column ++ expectation expected
  | fuelExhausted limit => "execution limit of " ++ toString limit ++ " steps exceeded"
  | recursionLimit limit => "recursion limit of " ++ toString limit ++ " exceeded"
  | danglingRule name => "recursive rule <" ++ name ++ "> is no longer alive"
  | scanner e => e.message

def isNoMatch : ParseError → Bool
  | noMatch .. => true
  | _ => false

end ParseError

/-- The limits on the effort of a parse. -/
structure Limits where
  /-- How many elements may be evaluated. -/
  fuel : Nat := 10000000
  /-- How deep elements may be nested. -/
  depth : Nat := 256
deriving DecidableEq, Repr, Inhabited

end Peg
