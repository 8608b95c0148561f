import Peg.Grammar.Conversion
import Peg.Grammar.Numeral
import Peg.Grammar.Part

/-!
Expressions that assemble a grammar.

A blueprint is what a caller writes down: constructors, operators and
decorations, and rules that refer to themselves by name. `Blueprint.build`
turns it into an element and gives every recursive rule a key of its own.
-/
namespace Peg

/-- Why a grammar cannot be assembled. -/
inductive BuildError where
  /-- A regular expression that was to be compiled on its own is none. -/
  | regex (e : RegexError)
  /-- The regular expression of a pattern element is none. -/
  | pattern (e : RegexError)
  /-- No element has the label that was looked for. -/
  | notFound
  /-- The element has no child at this position. -/
  | noChild
  /-- No rule or definition around the reference has this name. -/
  | unbound (name : String)
deriving DecidableEq, Repr

/-- What an element can be wrapped in, layer by layer. -/
inductive Wrapper where
  | alternation
  | sequence
  | flatSequence
  | rule
  | convert
deriving DecidableEq, Repr

/-- An expression that assembles an element. -/
inductive Blueprint where
  | literal (text : String)
  | pattern (source : String)
  | regex (source : String)
  | groups (source : String)
  | sequence (children : List Blueprint)
  | alternation (children : List Blueprint)
  | plus (a b : Blueprint)
  | orElse (a b : Blueprint)
  | repetition (child : Blueprint) (min : Nat) (max : Option Nat)
  | optional (child : Blueprint)
  | oneOrMore (child : Blueprint)
  | zeroOrMore (child : Blueprint)
  | separated (item : Blueprint) (min : Nat) (max : Option Nat)
  | separatedBy (item separator : Blueprint) (min : Nat) (max : Option Nat)
  | endOfInput
  | double
  | integer
  | convert (child : Blueprint) (f : String → Option Value)
  /-- A rule that `ref name` inside the body refers to. -/
  | recursive (name : String) (body : Blueprint)
  /-- The innermost rule around it of this name, or else the last definition
  of this name. -/
  | ref (name : String)
  | strip (e : Blueprint)
  | flatten (e : Blueprint)
  | withId (e : Blueprint) (id : String)
  /-- The first element with a label inside another, which is let go. -/
  | find (e : Blueprint) (id : String)
  /-- A child of an element, which is let go. -/
  | child (e : Blueprint) (index : Nat)
  | wrap (w : Wrapper) (layers : Nat) (e : Blueprint)

/-- One layer around an element. -/
def Wrapper.apply : Wrapper → Element → Element
  | alternation, e => .alternation [e]
  | sequence, e => .sequence [e]
  | flatSequence, e => (Element.sequence [e]).flatten
  | rule, e => .ofKind (.rule none "w" e)
  | convert, e => e.convert Conversion.text

/-- The names that a blueprint can refer to. -/
structure Scope where
  /-- The rules around it with their keys, the innermost first. -/
  rules : List (String × Nat) := []
  /-- The definitions before it, the last first. -/
  definitions : List (String × Part) := []

/-- The part that a name refers to. -/
def Scope.resolve (scope : Scope) (name : String) : Except BuildError Part :=
  match scope.rules.lookup name with
  | some key => .ok (.simple (.ofKind (.backref name key)))
  | none =>
    match scope.definitions.lookup name with
    | some p => .ok p
    | none => .error (.unbound name)

/-- Compiles a pattern, with the error that `wrong` makes of a bad one. -/
def compileAs (wrong : RegexError → BuildError) (source : String) : Except BuildError Regex :=
  (Regex.compile source).mapError wrong

namespace Blueprint

mutual

/-- The part that a blueprint assembles, from left to right and children
before parents. Keys from `key` on are free; the first key that is still free
afterwards is returned too. -/
def build (scope : Scope) (key : Nat) : Blueprint → Except BuildError (Part × Nat)
  | literal text => .ok (.simple (.literal text), key)
  | pattern source => do return (.simple (.ofRegex (← compileAs .pattern source)), key)
  | regex source => do return (.simple (.ofRegex (← compileAs .regex source)), key)
  | groups source => do return (.simple (.groupsOf (← compileAs .pattern source)), key)
  | sequence children => do
    let (ps, key) ← buildAll scope key children
    return (.sequence ps, key)
  | alternation children => do
    let (ps, key) ← buildAll scope key children
    return (.alternation ps, key)
  | plus a b => do
    let (a, key) ← a.build scope key
    let (b, key) ← b.build scope key
    return (a.plus b, key)
  | orElse a b => do
    let (a, key) ← a.build scope key
    let (b, key) ← b.build scope key
    return (a.orElse b, key)
  | repetition b min max => do
    let (p, key) ← b.build scope key
    return (p.around (·.repetition min max), key)
  | optional b => do
    let (p, key) ← b.build scope key
    return (p.around .optional, key)
  | oneOrMore b => do
    let (p, key) ← b.build scope key
    return (p.around .oneOrMore, key)
  | zeroOrMore b => do
    let (p, key) ← b.build scope key
    return (p.around .zeroOrMore, key)
  | separated item min max => do
    let (p, key) ← item.build scope key
    return (.separatedBy (.simple .comma) p min max, key)
  | separatedBy item separator min max => do
    let (p, key) ← item.build scope key
    let (sep, key) ← separator.build scope key
    return (.separatedBy sep p min max, key)
  | endOfInput => .ok (.simple .endOfInput, key)
  | double => .ok (.simple .double, key)
  | integer => .ok (.simple .integer, key)
  | convert b f => do
    let (p, key) ← b.build scope key
    return (p.around (·.convert f), key)
  | recursive name body => do
    let (p, next) ← body.build { scope with rules := (name, key) :: scope.rules } (key + 1)
    return (.rule key name p, next)
  | ref name => do return (← scope.resolve name, key)
  | strip b => do
    let (p, key) ← b.build scope key
    return (p.strip, key)
  | flatten b => do
    let (p, key) ← b.build scope key
    return (p.flatten, key)
  | withId b id => do
    let (p, key) ← b.build scope key
    return (p.withId id, key)
  | find b id => do
    let (p, key) ← b.build scope key
    match p.find? id with
    | some found => return (found, key)
    | none => throw .notFound
  | child b index => do
    let (p, key) ← b.build scope key
    match p.parts[index]? with
    | some found => return (found, key)
    | none => throw .noChild
  | wrap w layers b => do
    let (p, key) ← b.build scope key
    return (Nat.repeat (·.around w.apply) layers p, key)

/-- The parts that several blueprints assemble. -/
def buildAll (scope : Scope) (key : Nat) :
    List Blueprint → Except BuildError (List Part × Nat)
  | [] => .ok ([], key)
  | b :: rest => do
    let (p, key) ← b.build scope key
    let (ps, key) ← buildAll scope key rest
    return (p :: ps, key)

end

/-- The definitions in order, each of which may refer to those before it. -/
def buildDefinitions (scope : Scope) (key : Nat) :
    List (String × Blueprint) → Except BuildError (Scope × Nat)
  | [] => .ok (scope, key)
  | (name, b) :: rest => do
    let (p, key) ← b.build scope key
    buildDefinitions { scope with definitions := (name, p) :: scope.definitions } key rest

/-- The grammar of a blueprint and the definitions it can refer to, all of
which are held while it is in use. -/
def grammar (b : Blueprint) (definitions : List (String × Blueprint)) :
    Except BuildError Grammar := do
  let (scope, key) ← buildDefinitions {} 0 definitions
  let (root, _) ← b.build scope key
  return ⟨root.element, Part.rulesAmong (root :: scope.definitions.map (·.2))⟩

end Blueprint

end Peg
