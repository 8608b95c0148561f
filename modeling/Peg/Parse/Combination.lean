import Peg.Parse.State

/-!
Sequences, choices, repetitions and separated lists, given the evaluation of
their children. One that does not match goes back to where it started.
-/
namespace Peg

/-- Whether a number of items is below the bound. -/
def belowMax (max : Option Nat) (count : Nat) : Bool :=
  max.all (count < ·)

namespace Engine

variable {σ : Type}

/-- The children of a sequence: the values they contribute after those in
`items`, which stand in reverse order, or nothing if one does not match. -/
def allOf (sub : Sub σ) (items : List Value) : List Element → Eval σ (Option (List Value))
  | [] => return some items.reverse
  | e :: rest => do
    match ← sub e with
    | some out => allOf sub (out.items.reverse ++ items) rest
    | none => return none

/-- A sequence. The mark stack holds where it started. -/
def sequence (en : Engine σ) (sub : Sub σ) (children : List Element) :
    Eval σ (Option Contribution) := do
  Eval.setScanner (← get).scanner.pushMark
  match ← allOf sub [] children with
  | some items =>
    Eval.ofMarks (← get).scanner.popMark
    return some (.one (.list items))
  | none =>
    let start ← Eval.cursor
    Eval.ofMarks (← get).scanner.back
    Eval.backtracked en.tracer start
    return none

/-- A choice: the first child that matches. -/
def firstOf (sub : Sub σ) : List Element → Eval σ (Option Contribution)
  | [] => return none
  | e :: rest => do
    match ← sub e with
    | some out => return some out
    | none => firstOf sub rest

/-- The matches of a repeated element after the first `count`, whose values
stand in `items` in reverse order. A match that does not move the cursor ends
the repetition and does not count. Every round costs fuel, so a bound on the
fuel bounds the rounds. -/
def rounds (sub : Sub σ) (child : Element) (max : Option Nat) :
    Nat → Nat → List Value → Eval σ (Nat × List Value)
  | 0, count, items => return (count, items)
  | bound + 1, count, items => do
    if belowMax max count then
      let mark ← Eval.cursor
      match ← sub child with
      | some out =>
        if mark.offset < (← Eval.cursor).offset then
          rounds sub child max bound (count + 1) (out.items.reverse ++ items)
        else
          -- A round that stands still would come again for ever.
          Eval.reset mark
          return (count, items)
      | none => return (count, items)
    else return (count, items)

/-- The end of a repetition: it matches if there were enough rounds. -/
def enough (en : Engine σ) (start : Cursor) (min : Nat) (result : Nat × List Value) :
    Eval σ (Option Contribution) := do
  if result.1 < min then
    Eval.rewind en.tracer start
    return none
  else return some (.one (.list result.2.reverse))

/-- A repetition. -/
def repetition (en : Engine σ) (sub : Sub σ) (child : Element) (min : Nat)
    (max : Option Nat) : Eval σ (Option Contribution) := do
  let s ← get
  let result ← rounds sub child max (s.fuel + 1) 0 []
  enough en s.scanner.cursor min result

/-- The items of a separated list after the first `count`, each with the
separator before it. A separator that no item follows is given back. -/
def moreItems (en : Engine σ) (sub : Sub σ) (item separator : Element) (max : Option Nat) :
    Nat → Nat → List Value → Eval σ (Nat × List Value)
  | 0, count, items => return (count, items)
  | bound + 1, count, items => do
    if belowMax max count then
      let mark ← Eval.cursor
      match ← sub separator with
      | none => return (count, items)
      | some sep =>
        match ← sub item with
        | some out =>
          if mark.offset < (← Eval.cursor).offset then
            -- Only now is it certain that the separator belongs to the list.
            moreItems en sub item separator max bound (count + 1)
              (out.items.reverse ++ (sep.items.reverse ++ items))
          else
            Eval.rewind en.tracer mark
            return (count, items)
        | none =>
          Eval.rewind en.tracer mark
          return (count, items)
    else return (count, items)

/-- The first item of a separated list, if the list may have one. -/
def firstItem (sub : Sub σ) (item : Element) (max : Option Nat) :
    Eval σ (Nat × List Value) := do
  if max = some 0 then return (0, [])
  else
    let mark ← Eval.cursor
    match ← sub item with
    | some out =>
      if mark.offset < (← Eval.cursor).offset then return (1, out.items.reverse)
      else
        Eval.reset mark
        return (0, [])
    | none => return (0, [])

/-- A separated list. -/
def separated (en : Engine σ) (sub : Sub σ) (item separator : Element) (min : Nat)
    (max : Option Nat) : Eval σ (Option Contribution) := do
  let s ← get
  let (count, items) ← firstItem sub item max
  if count = 0 then enough en s.scanner.cursor min (0, items)
  else
    let result ← moreItems en sub item separator max (s.fuel + 1) count items
    enough en s.scanner.cursor min result

end Engine

end Peg
