import Peg.Parse.Run
import Peg.Proofs.Passage

/-!
Evaluation by a machine that can break down.

The machine evaluates elements as an engine does, but on offsets and words of
32 bits where the engine has cursors and natural numbers. It cuts pieces out of
the text between any two offsets, its counters can wrap around, and it watches
over bounds that nothing enforces. Whatever of this goes wrong is a panic, which
no evaluation survives.
-/
namespace Peg

/-- What can go wrong in a machine. -/
inductive Panic where
  /-- A piece was to be cut out of the text that is not a piece of it: an end is
  inside a character or beyond the text, or the piece ends before it starts. -/
  | badSlice
  /-- A counter at zero was to be decreased. -/
  | underflow
  /-- A counter at the largest word was to be increased. -/
  | overflow
  /-- A register was to be set out of its bounds. -/
  | outOfBounds
  /-- More items were counted than the text has bytes. -/
  | overcount
  /-- A recursion went on beyond its bound. -/
  | endless
deriving DecidableEq, Repr

/-- Why a machine stops without a result. -/
inductive Stop where
  | panic (p : Panic)
  | error (e : ParseError)

/-- The registers of a machine. -/
structure Registers (σ : Type) where
  /-- The offset of the cursor. -/
  position : Nat
  /-- The offsets on the mark stack, the newest first. -/
  marks : List Nat
  /-- How often skipping has been suppressed. -/
  suppressed : UInt32
  /-- How many elements may still be evaluated. -/
  fuel : UInt32
  /-- How many evaluations are open. -/
  depth : UInt32
  /-- How many typed leaves are open. -/
  quiet : UInt32
  /-- The furthest offset at which a leaf failed. -/
  place : Nat
  /-- What was expected there. -/
  expected : List String
  trace : σ

/-- An action of a machine. The registers survive an error. -/
abbrev Act (σ : Type) := EStateM Stop (Registers σ)

namespace Act

variable {σ α : Type}

def panic (p : Panic) : Act σ α :=
  throw (.panic p)

def fail (e : ParseError) : Act σ α :=
  throw (.error e)

/-- Acts, and goes on in any case but a panic. -/
def attempt (act : Act σ α) : Act σ (Except ParseError α) := fun r =>
  match act r with
  | .ok a r => .ok (.ok a) r
  | .error (.error e) r => .ok (.error e) r
  | .error (.panic p) r => .error (.panic p) r

/-- Takes up the result of an attempt. -/
def resume (result : Except ParseError α) : Act σ α :=
  match result with
  | .ok a => return a
  | .error e => fail e

/-- What is told of a run when it has ended. -/
def report (result : EStateM.Result Stop (Registers σ) α) : Except Stop α × σ :=
  match result with
  | .ok a r => (.ok a, r.trace)
  | .error stop r => (.error stop, r.trace)

/-- One more, if that is a word. -/
def increase (w : UInt32) : Act σ UInt32 :=
  if w + 1 = 0 then panic .overflow else return w + 1

/-- One less, if that is a word. -/
def decrease (w : UInt32) : Act σ UInt32 :=
  if w = 0 then panic .underflow else return w - 1

end Act

/-- The settings of a machine and the text it works on. -/
structure Machine (σ : Type) where
  source : List Char
  rules : RuleTable
  /-- The characters that are skipped before literals and patterns. -/
  skip : Option CharSet
  fuelLimit : UInt32
  depthLimit : UInt32
  tracer : Tracer σ

namespace Machine

open Act

variable {σ : Type} (mc : Machine σ)

/-- What has to hold of the registers at every step: all offsets are boundaries of
the text, no more typed leaves are open than evaluations, and no more evaluations
than the limit allows. -/
structure InBounds (r : Registers σ) : Prop where
  position : Boundary mc.source r.position
  marks : ∀ mark ∈ r.marks, Boundary mc.source mark
  place : Boundary mc.source r.place
  depth : r.depth ≤ mc.depthLimit
  quiet : r.quiet ≤ r.depth

instance (r : Registers σ) : Decidable (mc.InBounds r) :=
  decidable_of_iff
    (Boundary mc.source r.position ∧ (∀ mark ∈ r.marks, Boundary mc.source mark) ∧
      Boundary mc.source r.place ∧ r.depth ≤ mc.depthLimit ∧ r.quiet ≤ r.depth)
    ⟨fun ⟨position, marks, place, depth, quiet⟩ => ⟨position, marks, place, depth, quiet⟩,
      fun h => ⟨h.position, h.marks, h.place, h.depth, h.quiet⟩⟩

/-- Changes the registers. Nothing else changes them, so they are checked at every
step. -/
def update (f : Registers σ → Registers σ) : Act σ Unit := fun r =>
  if mc.InBounds (f r) then .ok () (f r) else panic .outOfBounds r

def position : Act σ Nat :=
  return (← get).position

def moveTo (offset : Nat) : Act σ Unit :=
  mc.update fun r => { r with position := offset }

def observe (f : σ → σ) : Act σ Unit :=
  mc.update fun r => { r with trace := f r.trace }

/-- The length of the text in bytes. -/
def size : Nat :=
  byteLength mc.source

/-- The piece of the text between two offsets. -/
def slice (start stop : Nat) : Act σ (List Char) :=
  match Cursor.ofOffset? mc.source start, Cursor.ofOffset? mc.source stop with
  | some a, some b => if start ≤ stop then return a.upTo b else panic .badSlice
  | _, _ => panic .badSlice

section Scan

/-- Where a run of characters of a set ends. -/
def runEnd (start : Nat) (set : CharSet) : Act σ Nat := do
  let rest ← mc.slice start mc.size
  return start + byteLength (rest.takeWhile set.contains)

/-- Where the next literal or pattern is looked for. -/
def skippedPosition : Act σ Nat := do
  let r ← get
  match mc.skip with
  | some set => if r.suppressed = 0 then mc.runEnd r.position set else return r.position
  | none => return r.position

/-- Jumps over the skipped characters, and tells which they are. -/
def skipNow : Act σ (List Char) := do
  let start ← position
  let stop ← mc.skippedPosition
  mc.moveTo stop
  mc.slice start stop

def atEnd : Act σ Bool :=
  return (← position) == mc.size

/-- The text passed since a mark. -/
def since (mark : Nat) : Act σ (List Char) := do
  let stop ← position
  mc.slice (min mark stop) stop

/-- Goes to a mark, which has to be one of this text. -/
def reset (mark : Nat) : Act σ Unit :=
  if Boundary mc.source mark then mc.moveTo (min mark mc.size) else panic .badSlice

def pushMark : Act σ Unit :=
  mc.update fun r => { r with marks := r.position :: r.marks }

/-- Drops the newest mark and stays where it is. -/
def popMark : Act σ Unit := do
  match (← get).marks with
  | [] => fail (.scanner .markUnderflow)
  | _ :: marks => mc.update fun r => { r with marks := marks }

/-- Drops the newest mark and goes back to it. -/
def back : Act σ Unit := do
  match (← get).marks with
  | [] => fail (.scanner .markUnderflow)
  | mark :: marks => mc.update fun r => { r with position := mark, marks := marks }

/-- Passes a literal after skipping, and tells whether it is there. -/
def scanLiteral (literal : String) : Act σ Bool := do
  let start ← mc.skippedPosition
  let rest ← mc.slice start mc.size
  if literal.toList <+: rest then
    mc.moveTo (start + byteLength literal.toList)
    return true
  else return false

/-- Cuts the groups of a match out of the text. -/
def groupTexts : List (Option (Cursor × Cursor)) → Act σ (List (Option (List Char)))
  | [] => return []
  | none :: groups => return none :: (← groupTexts groups)
  | some (a, b) :: groups => do
    let text ← mc.slice a.offset b.offset
    return some text :: (← groupTexts groups)

/-- The match of a pattern at an offset, which has to be a boundary. The text of
the match and those of its groups are cut out at once. -/
def matchAt (regex : Regex) (offset : Nat) : Act σ (Option Regex.Match) := do
  if Boundary mc.source offset then
    match regex.matchAt mc.source offset with
    | .error _ => panic .badSlice
    | .ok none => return none
    | .ok (some m) =>
      let _ ← mc.slice m.start.offset m.stop.offset
      let _ ← mc.groupTexts m.groups
      return some m
  else panic .badSlice

/-- Passes what a pattern matches after skipping. -/
def scanRegex (regex : Regex) : Act σ (Option Regex.Match) := do
  let start ← mc.skippedPosition
  match ← mc.matchAt regex start with
  | none => return none
  | some m =>
    mc.moveTo m.stop.offset
    return some m

/-- The line and column of an offset. -/
def lineColumn (offset : Nat) : Act σ (Nat × Nat) := do
  let before ← mc.slice 0 offset
  let lineStart := byteLength (before.reverse.dropWhile (· != '\n'))
  let line ← mc.slice lineStart offset
  return (before.count '\n' + 1, line.length + 1)

end Scan

section Count

/-- Pays for an evaluation. -/
def spend : Act σ Unit := do
  let r ← get
  if r.fuel = 0 then fail (.fuelExhausted mc.fuelLimit.toNat)
  else
    let fuel ← decrease r.fuel
    mc.update fun r => { r with fuel := fuel }

/-- Opens an evaluation, if one more may be open. -/
def descend : Act σ Unit := do
  let r ← get
  if mc.depthLimit ≤ r.depth then fail (.recursionLimit mc.depthLimit.toNat)
  else
    let depth ← increase r.depth
    mc.update fun r => { r with depth := depth }

/-- Closes an evaluation. -/
def ascend : Act σ Unit := do
  let depth ← decrease (← get).depth
  mc.update fun r => { r with depth := depth }

/-- Opens a typed leaf. -/
def hush : Act σ Unit := do
  let quiet ← increase (← get).quiet
  mc.update fun r => { r with quiet := quiet }

/-- Closes a typed leaf. -/
def unhush : Act σ Unit := do
  let quiet ← decrease (← get).quiet
  mc.update fun r => { r with quiet := quiet }

/-- Counts one more item of a repetition or a list. -/
def tally (count : Nat) : Act σ Nat :=
  if count < mc.size then return count + 1 else panic .overcount

end Count

section Note

/-- Notes what was expected at an offset, outside typed leaves. -/
def record (offset : Nat) (label : Unit → String) : Act σ Unit := do
  let r ← get
  if 0 < r.quiet ∨ offset < r.place then return
  else
    let expected := if r.place < offset then [] else r.expected
    let label := label ()
    let expected := if expected.contains label then expected else expected ++ [label]
    mc.update fun r => { r with place := offset, expected := expected }

/-- Tells the observer that the cursor has gone back, if it has. -/
def backtracked (start : Nat) : Act σ Unit := do
  let stop ← position
  if start = stop then return else mc.observe (mc.tracer.backtrack start stop)

/-- Goes back to a mark and tells the observer. -/
def rewind (mark : Nat) : Act σ Unit := do
  let start ← position
  mc.reset mark
  mc.backtracked start

/-- Fails with what was expected. -/
def noMatch {α : Type} : Act σ α := do
  let r ← get
  let (line, column) ← mc.lineColumn r.place
  fail (.noMatch r.place line column r.expected)

end Note

/-- The evaluation of sub-elements. -/
abbrev Inner (σ : Type) := Element → Act σ (Option Contribution)

section Leaf

def literal (e : Element) (text : String) : Act σ (Option Contribution) := do
  let start ← mc.skippedPosition
  if ← mc.scanLiteral text then return some (.one (.text text))
  else
    mc.record start fun _ => e.label
    return none

def pattern (e : Element) (regex : Regex) (capture : Capture) : Act σ (Option Contribution) := do
  let start ← mc.skippedPosition
  match ← mc.scanRegex regex with
  | some m => return some (.one (capture.value m))
  | none =>
    mc.record start fun _ => e.label
    return none

def endOfInput (e : Element) : Act σ (Option Contribution) := do
  let start ← position
  let _ ← mc.skipNow
  if ← mc.atEnd then return some .nothing
  else
    let stop ← position
    mc.reset start
    mc.record stop fun _ => e.label
    return none

/-- The text matched since a mark, without the skipped characters in front. -/
def matchedText (mark : Nat) : Act σ String := do
  let text ← mc.since mark
  return String.ofList (match mc.skip with
    | some set => text.dropWhile set.contains
    | none => text)

/-- What a typed leaf makes of the match of its child. -/
def converted (f : String → Option Value) (mark : Nat) :
    Option Contribution → Act σ (Option Value)
  | some (.one (.text t)) => return f t
  | some _ => return f (← mc.matchedText mark)
  | none => return none

def convert (sub : Inner σ) (e child : Element) (f : String → Option Value) :
    Act σ (Option Contribution) := do
  let start ← position
  mc.hush
  let result ← attempt (sub child)
  -- The leaf is closed before an error is passed on.
  mc.unhush
  match ← mc.converted f start (← resume result) with
  | some v => return some (.one v)
  | none =>
    mc.reset start
    let stop ← mc.skippedPosition
    mc.record stop fun _ => e.label
    return none

end Leaf

section Combination

def allOf (sub : Inner σ) (items : List Value) : List Element → Act σ (Option (List Value))
  | [] => return some items.reverse
  | e :: rest => do
    match ← sub e with
    | some out => allOf sub (out.items.reverse ++ items) rest
    | none => return none

def sequence (sub : Inner σ) (children : List Element) : Act σ (Option Contribution) := do
  mc.pushMark
  match ← allOf sub [] children with
  | some items =>
    mc.popMark
    return some (.one (.list items))
  | none =>
    let start ← position
    mc.back
    mc.backtracked start
    return none

def firstOf (sub : Inner σ) : List Element → Act σ (Option Contribution)
  | [] => return none
  | e :: rest => do
    match ← sub e with
    | some out => return some out
    | none => firstOf sub rest

def rounds (sub : Inner σ) (child : Element) (max : Option Nat) :
    Nat → Nat → List Value → Act σ (Nat × List Value)
  | 0, _, _ => panic .endless
  | bound + 1, count, items => do
    if belowMax max count then
      let mark ← position
      match ← sub child with
      | some out =>
        if mark < (← position) then
          let count ← mc.tally count
          rounds sub child max bound count (out.items.reverse ++ items)
        else
          mc.reset mark
          return (count, items)
      | none => return (count, items)
    else return (count, items)

def enough (start min : Nat) (result : Nat × List Value) : Act σ (Option Contribution) := do
  if result.1 < min then
    mc.rewind start
    return none
  else return some (.one (.list result.2.reverse))

def repetition (sub : Inner σ) (child : Element) (min : Nat) (max : Option Nat) :
    Act σ (Option Contribution) := do
  let r ← get
  let result ← mc.rounds sub child max (r.fuel.toNat + 1) 0 []
  mc.enough r.position min result

def moreItems (sub : Inner σ) (item separator : Element) (max : Option Nat) :
    Nat → Nat → List Value → Act σ (Nat × List Value)
  | 0, _, _ => panic .endless
  | bound + 1, count, items => do
    if belowMax max count then
      let mark ← position
      match ← sub separator with
      | none => return (count, items)
      | some sep =>
        match ← sub item with
        | some out =>
          if mark < (← position) then
            let count ← mc.tally count
            moreItems sub item separator max bound count
              (out.items.reverse ++ (sep.items.reverse ++ items))
          else
            mc.rewind mark
            return (count, items)
        | none =>
          mc.rewind mark
          return (count, items)
    else return (count, items)

def firstItem (sub : Inner σ) (item : Element) (max : Option Nat) : Act σ (Nat × List Value) := do
  if max = some 0 then return (0, [])
  else
    let mark ← position
    match ← sub item with
    | some out =>
      if mark < (← position) then return (← mc.tally 0, out.items.reverse)
      else
        mc.reset mark
        return (0, [])
    | none => return (0, [])

def separated (sub : Inner σ) (item separator : Element) (min : Nat) (max : Option Nat) :
    Act σ (Option Contribution) := do
  let r ← get
  let (count, items) ← mc.firstItem sub item max
  if count = 0 then mc.enough r.position min (0, items)
  else
    let result ← mc.moreItems sub item separator max (r.fuel.toNat + 1) count items
    mc.enough r.position min result

end Combination

def backref (sub : Inner σ) (name : String) (target : Nat) : Act σ (Option Contribution) :=
  match mc.rules.lookup target with
  | some e => sub e
  | none => fail (.danglingRule name)

/-- An element by its kind, given the evaluation of sub-elements. -/
def evalKind (sub : Inner σ) (e : Element) : Act σ (Option Contribution) :=
  match e.kind with
  | .literal text => mc.literal e text
  | .pattern regex capture => mc.pattern e regex capture
  | .sequence children => mc.sequence sub children
  | .alternation children => firstOf sub children
  | .repetition child min max => mc.repetition sub child min max
  | .separated item separator min max => mc.separated sub item separator min max
  | .convert child _ f => mc.convert sub e child f
  | .endOfInput => mc.endOfInput e
  | .rule _ _ body => sub body
  | .backref name target => mc.backref sub name target

/-- Tells the observer how an evaluation ended. -/
def close (e : Element) (entry token : Nat) :
    Option Contribution → Act σ (Option Contribution)
  | some out => do
    let stop ← position
    mc.observe (mc.tracer.success e (if token ≤ stop then token else entry) stop)
    return some (out.decorate e.decor)
  | none => do
    mc.observe (mc.tracer.failure e (← position))
    return none

/-- An evaluation that looks at its element by `body`. -/
def visit (body : Act σ (Option Contribution)) (e : Element) : Act σ (Option Contribution) := do
  mc.spend
  mc.descend
  let entry ← position
  let token ← mc.skippedPosition
  mc.observe (mc.tracer.enter e entry)
  let result ← attempt body
  -- The evaluation is closed before an error is passed on.
  mc.ascend
  mc.close e entry token (← resume result)

/-- Evaluates an element, nested at most `room` levels deep. The machine does not
look at `room`: it is the depth that has to keep it from running out of levels. -/
def eval : Nat → Inner σ
  | 0, e => mc.visit (panic .endless) e
  | room + 1, e => mc.visit (mc.evalKind (eval room) e) e

/-- Sees to it that only skipped characters follow. -/
def demandEnd : Act σ Unit := do
  let _ ← mc.skipNow
  if ← mc.atEnd then return
  else
    mc.record (← position) fun _ => "end of input"
    mc.noMatch

/-- Evaluates the root of a grammar: its value, and where its match ends. -/
def run (requireEnd : Bool) (root : Element) : Act σ (Value × Nat) := do
  match ← mc.eval mc.depthLimit.toNat root with
  | none => mc.noMatch
  | some out =>
    let stop ← position
    if requireEnd then mc.demandEnd
    return (out.toValue root.kind.isSequence, stop)

/-- The registers at the start of a run. -/
def startRegisters (trace : σ) : Registers σ where
  position := 0
  marks := []
  suppressed := 0
  fuel := mc.fuelLimit
  depth := 0
  quiet := 0
  place := 0
  expected := []
  trace := trace

/-- Runs a machine. The state of the observer is there in any case. -/
def evaluate (requireEnd : Bool) (root : Element) (trace : σ) :
    Except Stop (Value × Nat) × σ :=
  Act.report (mc.run requireEnd root (mc.startRegisters trace))

end Machine

/-- The machine that runs a grammar on a text. -/
def Grammar.machine {σ : Type} (g : Grammar) (skip : Option CharSet) (fuel depth : UInt32)
    (text : List Char) (tracer : Tracer σ) : Machine σ :=
  ⟨text, g.rules, skip, fuel, depth, tracer⟩

end Peg
