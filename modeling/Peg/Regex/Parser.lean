import Peg.Regex.Expr
import Peg.Unicode.Alphabetic
import Peg.Unicode.Blank
import Peg.Unicode.Number

/-!
Reading a pattern.

`Expr.parse?` walks over the pattern with a stack of the groups that are open.
Inside brackets a second stack holds the classes that are open. A pattern that
cannot be read has no further explanation, so every step is an `Option`.
-/
namespace Peg.Regex

/-- The deepest nesting that a pattern may have. -/
def depthLimit : Nat := 250

/-- Drops blanks and comments, which run from `#` to the end of the line. -/
def dropComments : Bool → List Char → List Char
  | _, [] => []
  | true, c :: cs => dropComments (c != '\n') cs
  | false, c :: cs =>
    if Unicode.isBlank c then dropComments false cs
    else if c = '#' then dropComments true cs
    else c :: cs

/-- Drops what a verbose pattern ignores. -/
def dropSpace (verbose : Bool) (cs : List Char) : List Char :=
  if verbose then dropComments false cs else cs

/-- The next character that a verbose pattern does not ignore, looking into a
comment as well. -/
def seekInk : Bool → List Char → Option Char
  | _, [] => none
  | comment, c :: cs =>
    if Unicode.isBlank c then seekInk comment cs
    else if !comment && c == '#' then seekInk true cs
    else some c

/-- What is seen ahead inside brackets. -/
def peekInk (verbose : Bool) (cs : List Char) : Option Char :=
  if verbose then (seekInk false cs).or cs.head? else cs.head?

/-- The characters in front that satisfy `p`, leaving out what a verbose
pattern ignores between them. At most `fuel` are taken. -/
def collect (verbose : Bool) (p : Char → Bool) : Nat → List Char → List Char × List Char
  | fuel + 1, c :: cs =>
    if p c then
      let (taken, rest) := collect verbose p fuel (dropSpace verbose cs)
      (c :: taken, rest)
    else ([], c :: cs)
  | _, cs => ([], cs)

/-- All characters in front that satisfy `p`. -/
def collectAll (verbose : Bool) (p : Char → Bool) (cs : List Char) : List Char × List Char :=
  collect verbose p cs.length cs

def isHexDigit (c : Char) : Bool :=
  c.isDigit || ('a' ≤ c && c ≤ 'f') || ('A' ≤ c && c ≤ 'F')

def hexValue (c : Char) : Nat :=
  if c.isDigit then c.toNat - '0'.toNat
  else if 'a' ≤ c then c.toNat - 'a'.toNat + 10
  else c.toNat - 'A'.toNat + 10

/-- The character with this number, if there is one. -/
def charOfNat? (n : Nat) : Option Char :=
  if n.isValidChar then some (Char.ofNat n) else none

/-- The character whose number is written in hexadecimal digits. -/
def charOfHex? (digits : List Char) : Option Char :=
  if digits.isEmpty then none
  else charOfNat? (digits.foldl (fun n c => 16 * n + hexValue c) 0)

/-- One character or class, as an escape gives it. -/
inductive Atom where
  | literal (c : Char) (byte : Bool)
  | anchor (a : Anchor)
  | property (negated : Bool) (p : Property)
  | shorthand (negated : Bool) (kind : Shorthand)

/-- The character after `\x`, `\u` or `\U`: a fixed number of hexadecimal
digits, or any number of them between braces. -/
def parseHex? (verbose : Bool) (digits : Nat) (cs : List Char) : Option (Atom × List Char) :=
  match dropSpace verbose cs with
  | '\x7b' :: rest =>
    match collectAll verbose isHexDigit (dropSpace verbose rest) with
    | (hex, '\x7d' :: rest) =>
      (charOfHex? hex).map fun c => (.literal c false, dropSpace verbose rest)
    | _ => none
  | rest =>
    match collect verbose isHexDigit digits rest with
    | (hex, rest) =>
      if hex.length = digits then
        (charOfHex? hex).map fun c => (.literal c (digits == 2), rest)
      else none

/-- Cuts a text at the first occurrence of a separator. -/
def splitAt? (sep : List Char) : List Char → Option (List Char × List Char)
  | [] => none
  | c :: cs =>
    if sep.isPrefixOf (c :: cs) then some ([], (c :: cs).drop sep.length)
    else (splitAt? sep cs).map fun (a, b) => (c :: a, b)

/-- The property between the braces of `\p{…}`, and whether an unequal sign
turns it round. -/
def parseProperty (name : List Char) : Bool × Property :=
  match splitAt? ['!', '='] name with
  | some (a, b) => (true, .valued (String.ofList a) (String.ofList b))
  | none =>
    match splitAt? [':'] name with
    | some (a, b) => (false, .valued (String.ofList a) (String.ofList b))
    | none =>
      match splitAt? ['='] name with
      | some (a, b) => (false, .valued (String.ofList a) (String.ofList b))
      | none => (false, .named (String.ofList name))

/-- The property after `\p` or `\P`: one letter, or a name between braces. -/
def parsePropertyEscape? (verbose negated : Bool) (cs : List Char) : Option (Atom × List Char) :=
  match dropSpace verbose cs with
  | [] => none
  | '\x7b' :: rest =>
    match collectAll verbose (· != '\x7d') (dropSpace verbose rest) with
    | (name, '\x7d' :: rest) =>
      let (turned, p) := parseProperty name
      some (.property (negated != turned) p, rest)
    | _ => none
  | c :: rest =>
    if c = '\\' then none
    else some (.property negated (.named (String.singleton c)), dropSpace verbose rest)

/-- The word boundary after `\b`: plain, or one of the kinds named between
braces. Braces that cannot hold such a name are left for a repetition. -/
def parseBoundary? (verbose : Bool) (cs : List Char) : Option (Atom × List Char) :=
  match cs with
  | '\x7b' :: rest =>
    let isNameChar (c : Char) : Bool := c.isAlpha || c == '-'
    match dropSpace verbose rest with
    | [] => none
    | c :: inner =>
      if !isNameChar c then some (.anchor .wordBoundary, cs)
      else
        match collectAll verbose isNameChar (c :: inner) with
        | (name, '\x7d' :: rest) =>
          match String.ofList name with
          | "start" => some (.anchor .wordStart, rest)
          | "end" => some (.anchor .wordEnd, rest)
          | "start-half" => some (.anchor .wordStartHalf, rest)
          | "end-half" => some (.anchor .wordEndHalf, rest)
          | _ => none
        | _ => none
  | _ => some (.anchor .wordBoundary, cs)

/-- Whether a backslash makes the character stand for itself: ASCII other than
letters, digits and angle brackets. -/
def isEscapable (c : Char) : Bool :=
  c.toNat < 128 && !c.isAlphanum && c != '<' && c != '>'

/-- What follows a backslash. -/
def parseEscape? (verbose : Bool) : List Char → Option (Atom × List Char)
  | [] => none
  | c :: rest =>
    match c with
    | 'x' => parseHex? verbose 2 rest
    | 'u' => parseHex? verbose 4 rest
    | 'U' => parseHex? verbose 8 rest
    | 'p' => parsePropertyEscape? verbose false rest
    | 'P' => parsePropertyEscape? verbose true rest
    | 'd' => some (.shorthand false .digit, rest)
    | 'D' => some (.shorthand true .digit, rest)
    | 's' => some (.shorthand false .space, rest)
    | 'S' => some (.shorthand true .space, rest)
    | 'w' => some (.shorthand false .word, rest)
    | 'W' => some (.shorthand true .word, rest)
    | 'a' => some (.literal '\x07' false, rest)
    | 'f' => some (.literal '\x0c' false, rest)
    | 't' => some (.literal '\t' false, rest)
    | 'n' => some (.literal '\n' false, rest)
    | 'r' => some (.literal '\r' false, rest)
    | 'v' => some (.literal '\x0b' false, rest)
    | 'A' => some (.anchor .textStart, rest)
    | 'z' => some (.anchor .textEnd, rest)
    | 'b' => parseBoundary? verbose rest
    | 'B' => some (.anchor .notWordBoundary, rest)
    | '<' => some (.anchor .wordStart, rest)
    | '>' => some (.anchor .wordEnd, rest)
    | c => if isEscapable c then some (.literal c false, rest) else none

/-- An escape outside brackets. -/
def Atom.toExpr : Atom → Expr
  | literal c byte => .literal c byte
  | anchor a => .anchor a
  | property negated p => .property negated p
  | shorthand negated kind => .shorthand negated kind

/-- An escape inside brackets, where no condition on a position makes sense. -/
def Atom.toClass? : Atom → Option ClassExpr
  | literal c _ => some (.literal c)
  | anchor _ => none
  | property negated p => some (.property negated p)
  | shorthand negated kind => some (.shorthand negated kind)

/-- The one character that an end of an interval has to be. -/
def Atom.toChar? : Atom → Option Char
  | literal c _ => some c
  | _ => none

/-- The ASCII class with this name. -/
def Posix.ofName? : String → Option Posix
  | "alnum" => some .alnum
  | "alpha" => some .alpha
  | "ascii" => some .ascii
  | "blank" => some .blank
  | "cntrl" => some .cntrl
  | "digit" => some .digit
  | "graph" => some .graph
  | "lower" => some .lower
  | "print" => some .print
  | "punct" => some .punct
  | "space" => some .space
  | "upper" => some .upper
  | "word" => some .word
  | "xdigit" => some .xdigit
  | _ => none

/-- The name of an ASCII class up to its closing `:]`, after `[:` or `[:^`. -/
def parsePosixName? (negated : Bool) (cs : List Char) : Option (ClassExpr × List Char) :=
  match cs.dropWhile (· != ':') with
  | ':' :: ']' :: rest =>
    (Posix.ofName? (String.ofList (cs.takeWhile (· != ':')))).map fun kind =>
      (.posix negated kind, rest)
  | _ => none

/-- An ASCII class, after its opening bracket. -/
def parsePosix? : List Char → Option (ClassExpr × List Char)
  | ':' :: '^' :: rest => parsePosixName? true rest
  | ':' :: rest => parsePosixName? false rest
  | _ => none

/-- One item inside brackets. -/
def parseClassAtom? (verbose : Bool) : List Char → Option (Atom × List Char)
  | [] => none
  | '\\' :: rest => parseEscape? verbose rest
  | c :: rest => some (.literal c false, rest)

/-- An item or an interval inside brackets. A hyphen before the closing bracket
or before another hyphen makes no interval. -/
def parseClassRange? (verbose : Bool) (cs : List Char) : Option (ClassExpr × List Char) := do
  let (first, rest) ← parseClassAtom? verbose cs
  match dropSpace verbose rest with
  | [] => none
  | '-' :: rest =>
    let ahead := peekInk verbose rest
    if ahead = some ']' ∨ ahead = some '-' then
      return (← first.toClass?, '-' :: rest)
    else
      let (second, rest) ← parseClassAtom? verbose (dropSpace verbose rest)
      let lo ← first.toChar?
      let hi ← second.toChar?
      if lo ≤ hi then return (.range lo hi, rest) else none
  | rest => return (← first.toClass?, rest)

/-- The hyphens at the start of a class, which stand for themselves. -/
def parseHyphens (verbose : Bool) (cs : List Char) : List ClassExpr × List Char :=
  let (hyphens, rest) := collectAll verbose (· == '-') cs
  (hyphens.map .literal, rest)

/-- A class that is being read: the items since the last operator in reverse
order, the operator that waits for them with its left operand, and whether
the class is negated. -/
structure OpenClass where
  items : List ClassExpr
  pending : Option (SetOp × ClassExpr)
  negated : Bool

namespace OpenClass

/-- What has been read of the class, as one expression. -/
def contents (c : OpenClass) : ClassExpr :=
  match c.pending with
  | some (kind, left) => .op kind left (ClassExpr.ofItems c.items)
  | none => ClassExpr.ofItems c.items

def add (c : OpenClass) (item : ClassExpr) : OpenClass :=
  { c with items := item :: c.items }

/-- Makes all that has been read the left operand of an operator. -/
def operate (c : OpenClass) (kind : SetOp) : OpenClass :=
  { c with items := [], pending := some (kind, c.contents) }

/-- The start of a class after its opening bracket: a caret negates, hyphens
stand for themselves, and so does a closing bracket that comes first. -/
def parse? (verbose : Bool) (cs : List Char) : Option (OpenClass × List Char) :=
  let cs := dropSpace verbose cs
  let (negated, cs) := match cs with
    | '^' :: rest => (true, dropSpace verbose rest)
    | _ => (false, cs)
  let (hyphens, cs) := parseHyphens verbose cs
  match hyphens, cs with
  | _, [] => none
  | [], ']' :: rest =>
    match dropSpace verbose rest with
    | [] => none
    | rest => some (⟨[.literal ']'], none, negated⟩, rest)
  | hyphens, cs => some (⟨hyphens, none, negated⟩, cs)

end OpenClass

/-- Reads on inside brackets, with the innermost open class and those around
it, up to the bracket that closes the outermost one. -/
def parseClass? (verbose : Bool) :
    Nat → OpenClass → List OpenClass → List Char → Option (Expr × List Char)
  | 0, _, _, _ => none
  | fuel + 1, inner, outer, cs =>
    match dropSpace verbose cs with
    | [] => none
    | '[' :: rest =>
      match parsePosix? rest with
      | some (item, rest) => parseClass? verbose fuel (inner.add item) outer rest
      | none =>
        match OpenClass.parse? verbose rest with
        | some (opened, rest) => parseClass? verbose fuel opened (inner :: outer) rest
        | none => none
    | ']' :: rest =>
      match outer with
      | [] => some (.bracket inner.negated inner.contents, rest)
      | around :: outer =>
        parseClass? verbose fuel (around.add (.bracket inner.negated inner.contents)) outer rest
    | '&' :: '&' :: rest => parseClass? verbose fuel (inner.operate .intersection) outer rest
    | '-' :: '-' :: rest => parseClass? verbose fuel (inner.operate .difference) outer rest
    | '~' :: '~' :: rest => parseClass? verbose fuel (inner.operate .symmetricDifference) outer rest
    | cs =>
      match parseClassRange? verbose cs with
      | some (item, rest) => parseClass? verbose fuel (inner.add item) outer rest
      | none => none

/-- The flag with this letter. -/
def Flag.ofChar? : Char → Option Flag
  | 'i' => some .caseless
  | 'm' => some .multiline
  | 's' => some .dotAll
  | 'U' => some .swapGreed
  | 'u' => some .unicode
  | 'R' => some .crlf
  | 'x' => some .verbose
  | _ => none

/-- Flags up to the colon or parenthesis after them. A hyphen switches the
flags behind it off; it must not stand last, and no letter may come twice. -/
def parseFlags? (change : FlagChange) (negated : Bool) (last : Char) :
    List Char → Option (FlagChange × List Char)
  | [] => none
  | c :: cs =>
    if c = ':' ∨ c = ')' then
      if last = '-' then none else some (change, c :: cs)
    else if c = '-' then
      if negated then none else parseFlags? change true '-' cs
    else
      match Flag.ofChar? c with
      | none => none
      | some f =>
        if change.on.contains f || change.off.contains f then none
        else if negated then parseFlags? { change with off := f :: change.off } true c cs
        else parseFlags? { change with on := f :: change.on } false c cs

/-- Whether a character may stand in the name of a group. -/
def isNameChar (first : Bool) (c : Char) : Bool :=
  if first then c == '_' || Unicode.isAlphabetic c
  else c == '_' || c == '.' || c == '[' || c == ']' || Unicode.isAlphabetic c
    || Unicode.isNumber c

/-- The name of a group up to its closing angle bracket. -/
def parseName? (cs : List Char) : Option (String × List Char) :=
  match cs.takeWhile (· != '>'), cs.dropWhile (· != '>') with
  | c :: name, '>' :: rest =>
    if isNameChar true c && name.all (isNameChar false) then
      some (String.ofList (c :: name), rest)
    else none
  | _, _ => none

/-- A group that is being read: the items of its last branch and the branches
before that, both in reverse order; what it does; and whether the pattern
around it is verbose. -/
structure OpenGroup where
  kind : GroupKind
  items : List Expr
  branches : List Expr
  verbose : Bool

/-- What has been read of a group, as one expression. -/
def OpenGroup.contents (items branches : List Expr) : Expr :=
  Expr.ofBranches (Expr.ofItems items :: branches)

/-- The state of reading outside brackets. -/
structure Reading where
  /-- The items of the branch that is being read, in reverse order. -/
  items : List Expr := []
  /-- The branches before it in the same group, in reverse order. -/
  branches : List Expr := []
  /-- The groups that are open, the innermost first. The items and branches in
  each are those of the group around it. -/
  groups : List OpenGroup := []
  /-- Whether blanks and comments are ignored. -/
  verbose : Bool := false
  /-- The number of capturing groups so far. -/
  captures : Nat := 0
  /-- Their names so far. -/
  names : List String := []

namespace Reading

def add (r : Reading) (e : Expr) : Reading :=
  { r with items := e :: r.items }

/-- Opens a group. -/
def enter (r : Reading) (kind : GroupKind) (verbose : Bool) : Reading :=
  { r with
    items := []
    branches := []
    groups := ⟨kind, r.items, r.branches, r.verbose⟩ :: r.groups
    verbose := verbose }

/-- Opens a group that captures. A name that is taken is refused. -/
def enterCapture? (r : Reading) (name : Option String) : Option Reading :=
  let index := r.captures + 1
  match name with
  | none => some { r.enter (.capture index none) r.verbose with captures := index }
  | some n =>
    if r.names.contains n then none
    else
      some { r.enter (.capture index (some n)) r.verbose with
        captures := index, names := n :: r.names }

/-- Closes the innermost group. -/
def leave? (r : Reading) : Option Reading :=
  match r.groups with
  | [] => none
  | g :: groups =>
    some { r with
      items := .group g.kind (OpenGroup.contents r.items r.branches) :: g.items
      branches := g.branches
      groups := groups
      verbose := g.verbose }

/-- Starts the next branch. -/
def branch (r : Reading) : Reading :=
  { r with items := [], branches := Expr.ofItems r.items :: r.branches }

/-- Repeats the last item. -/
def repeat? (r : Reading) (min : Nat) (max : Option Nat) (greedy : Bool) : Option Reading :=
  match r.items with
  | [] => none
  | e :: items =>
    if e.isRepeatable then some { r with items := .times min max greedy e :: items } else none

/-- What follows an opening parenthesis. -/
def open? (r : Reading) (cs : List Char) : Option (Reading × List Char) :=
  match dropSpace r.verbose cs with
  | '?' :: '=' :: _ | '?' :: '!' :: _ | '?' :: '<' :: '=' :: _ | '?' :: '<' :: '!' :: _ => none
  | '?' :: 'P' :: '<' :: rest | '?' :: '<' :: rest => do
    let (name, rest) ← parseName? rest
    return (← r.enterCapture? (some name), rest)
  | '?' :: rest => do
    let (change, rest) ← parseFlags? ⟨[], []⟩ false ' ' rest
    let verbose := (change.state? .verbose).getD r.verbose
    match rest with
    | ')' :: rest =>
      if change.on.isEmpty && change.off.isEmpty then none
      else return ({ r.add (.flags change) with verbose }, rest)
    | _ :: rest => return (r.enter (.plain change) verbose, rest)
    | [] => none
  | rest => do return (← r.enterCapture? none, rest)

end Reading

/-- Whether a question mark follows directly, which makes a repetition lazy. -/
def parseLazy : List Char → Bool × List Char
  | '?' :: rest => (false, rest)
  | rest => (true, rest)

/-- A number of repetitions that fits into 32 bits, with blanks around it. -/
def parseCount? (verbose : Bool) (cs : List Char) : Option Nat × List Char :=
  let cs := cs.dropWhile Unicode.isBlank
  let (digits, rest) := collectAll verbose Char.isDigit cs
  let rest := if rest.head?.any Unicode.isBlank then
    dropSpace verbose (rest.dropWhile Unicode.isBlank) else rest
  let n := digits.foldl (fun n c => 10 * n + (c.toNat - '0'.toNat)) 0
  (if digits ≠ [] ∧ n < UInt32.size then some n else none, rest)

/-- The bounds of a repetition after the opening brace. -/
def parseBounds? (verbose : Bool) (cs : List Char) :
    Option ((Nat × Option Nat) × List Char) :=
  let (least, rest) := parseCount? verbose (dropSpace verbose cs)
  match least, rest with
  | some n, '\x7d' :: rest => some ((n, some n), rest)
  | some n, ',' :: rest =>
    match dropSpace verbose rest with
    | '\x7d' :: rest => some ((n, none), rest)
    | rest =>
      match parseCount? verbose rest with
      | (some m, '\x7d' :: rest) => if n ≤ m then some ((n, some m), rest) else none
      | _ => none
  | _, _ => none

/-- Reads one construct outside brackets. -/
def Reading.step? (r : Reading) : List Char → Option (Reading × List Char)
  | [] => none
  | c :: rest =>
    match c with
    | '(' => r.open? rest
    | ')' => r.leave?.map (·, rest)
    | '|' => some (r.branch, rest)
    | '[' => do
      let (opened, rest) ← OpenClass.parse? r.verbose rest
      let (e, rest) ← parseClass? r.verbose (rest.length + 1) opened [] rest
      return (r.add e, rest)
    | '?' => let (greedy, rest) := parseLazy rest; (r.repeat? 0 (some 1) greedy).map (·, rest)
    | '*' => let (greedy, rest) := parseLazy rest; (r.repeat? 0 none greedy).map (·, rest)
    | '+' => let (greedy, rest) := parseLazy rest; (r.repeat? 1 none greedy).map (·, rest)
    | '\x7b' => do
      let ((min, max), rest) ← parseBounds? r.verbose rest
      let (greedy, rest) := parseLazy (dropSpace r.verbose rest)
      return (← r.repeat? min max greedy, rest)
    | '\\' => (parseEscape? r.verbose rest).map fun (a, rest) => (r.add a.toExpr, rest)
    | '.' => some (r.add .dot, rest)
    | '^' => some (r.add (.anchor .lineStart), rest)
    | '$' => some (r.add (.anchor .lineEnd), rest)
    | c => some (r.add (.literal c false), rest)

/-- Reads to the end of the pattern. -/
def Reading.run? : Nat → Reading → List Char → Option Expr
  | 0, _, _ => none
  | fuel + 1, r, cs =>
    match dropSpace r.verbose cs with
    | [] => if r.groups.isEmpty then some (OpenGroup.contents r.items r.branches) else none
    | cs =>
      match r.step? cs with
      | some (r, rest) => r.run? fuel rest
      | none => none

/-- The expression that a pattern stands for, if it can be read. -/
def Expr.parse? (pattern : String) : Option Expr :=
  let cs := pattern.toList
  match Reading.run? (cs.length + 1) {} cs with
  | some e => if e.depth ≤ depthLimit then some e else none
  | none => none

end Peg.Regex
