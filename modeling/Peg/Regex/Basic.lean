import Peg.Regex.Footprint
import Peg.Regex.Parser
import Peg.Regex.Resolve
import Peg.Regex.Search
import Peg.Text.Quoted

/-!
Compiled regular expressions, matched at a position.

A match starts exactly at the position asked for and need not reach the end of
the text. Conditions such as a word boundary see the whole text.
-/
namespace Peg

/-- A compiled regular expression. -/
structure Regex where
  /-- The pattern as written. -/
  source : String
  program : Array Regex.Inst
  /-- The names of the groups after group 0, which has none. -/
  names : List (Option String)
  names_nodup : (names.filterMap id).Nodup

/-- What is wrong with a pattern. -/
inductive RegexFault where
  /-- It is no regular expression. -/
  | malformed
  /-- It asks for too much memory. -/
  | oversized
deriving DecidableEq, Repr

def RegexFault.message : RegexFault → String
  | malformed => "error parsing pattern 0"
  | oversized => "error building NFA"

/-- A pattern that cannot be compiled. -/
structure RegexError where
  pattern : String
  fault : RegexFault
deriving DecidableEq, Repr

def RegexError.message (e : RegexError) : String :=
  "invalid regular expression " ++ Quoted.text e.pattern ++ ": " ++ e.fault.message

namespace Regex

/-- The names of the groups 1, 2, … up to the last one that occurs. A number
that does not occur has no name. -/
def groupNames (captures : List (Nat × Option String)) : List (Option String) :=
  let count := captures.foldl (fun n (index, _) => max n index) 0
  (List.range count).map fun i => (captures.lookup (i + 1)).join

/-- Whether no two groups of a pattern have the same name. -/
def DistinctNames (p : Pattern) : Prop :=
  ((groupNames p.captures).filterMap id).Nodup

instance (p : Pattern) : Decidable (DistinctNames p) :=
  inferInstanceAs (Decidable (List.Nodup _))

/-- The regular expression of a pattern that is written as `source`. -/
def ofPattern (source : String) (p : Pattern) (h : DistinctNames p) : Regex where
  source := source
  program := p.program
  names := groupNames p.captures
  names_nodup := h

/-- Compiles a pattern. -/
def compile (source : String) : Except RegexError Regex :=
  match (Expr.parse? source).bind Expr.pattern? with
  | none => .error ⟨source, .malformed⟩
  | some p =>
    if h : DistinctNames p then
      if p.fits then .ok (ofPattern source p h) else .error ⟨source, .oversized⟩
    else .error ⟨source, .malformed⟩

/-- The number of groups, group 0 included. -/
def groupCount (r : Regex) : Nat :=
  r.names.length + 1

def hasNamedGroups (r : Regex) : Bool :=
  r.names.any Option.isSome

/-- The pattern between slashes. -/
def display (r : Regex) : String :=
  "/" ++ r.source ++ "/"

def inspect (r : Regex) : String :=
  "Regex(" ++ Quoted.text r.source ++ ")"

/-- A match: where it starts and stops, and for each group after group 0 its
name and where it matched, if it took part. -/
structure Match where
  start : Cursor
  stop : Cursor
  names : List (Option String)
  groups : List (Option (Cursor × Cursor))

/-- The match at a cursor. -/
def matchFrom (r : Regex) (c : Cursor) : Option Match :=
  (search r.program r.names.length c).map fun (stop, t) => ⟨c, stop, r.names, t.groups⟩

/-- An offset more than one byte beyond the end of the text. -/
inductive OffsetError where
  | outOfRange
deriving DecidableEq, Repr

/-- The match at an offset. Nothing matches inside a character or one byte
beyond the end, and an offset further out is refused. -/
def matchAt (r : Regex) (text : List Char) (offset : Nat) :
    Except OffsetError (Option Match) :=
  if byteLength text + 1 < offset then .error .outOfRange
  else .ok ((Cursor.ofOffset? text offset).bind r.matchFrom)

namespace Match

/-- The text of the whole match. -/
def text (m : Match) : String :=
  String.ofList (m.start.upTo m.stop)

def isEmpty (m : Match) : Bool :=
  m.start.offset == m.stop.offset

/-- The text of each group after group 0. -/
def positional (m : Match) : List (Option String) :=
  m.groups.map fun g => g.map fun (a, b) => String.ofList (a.upTo b)

/-- The text of a group by its number. -/
def group? (m : Match) : Nat → Option String
  | 0 => some m.text
  | i + 1 => m.positional[i]?.join

/-- The text of a group by its name. -/
def named? (m : Match) (name : String) : Option String :=
  match m.names.findIdx? (· == some name) with
  | some i => m.group? (i + 1)
  | none => none

/-- The named groups in the order of their declaration. -/
def named (m : Match) : List (String × Option String) :=
  (m.names.zip m.positional).filterMap fun (name, text) => name.map (·, text)

end Match

end Regex

end Peg
