import Peg.Regex.Class
import Peg.Regex.Pattern

/-!
From an expression as written to the pattern that is run: flags are applied
where they are in force, and classes become sets.

A flag that is set inside a group holds up to the end of that group, also in
the branches that follow.
-/
namespace Peg.Regex

open Unicode (CodeSet)

/-- The condition that an anchor stands for. -/
def Anchor.look (f : Flags) : Anchor → Look
  | lineStart =>
    if f.multiline then (if f.crlf then .crlfStart else .lineStart) else .textStart
  | lineEnd => if f.multiline then (if f.crlf then .crlfEnd else .lineEnd) else .textEnd
  | textStart => .textStart
  | textEnd => .textEnd
  | wordBoundary => .wordBoundary f.unicode
  | notWordBoundary => .notWordBoundary f.unicode
  | wordStart => .wordStart f.unicode
  | wordEnd => .wordEnd f.unicode
  | wordStartHalf => .wordStartHalf f.unicode
  | wordEndHalf => .wordEndHalf f.unicode

/-- What classes are made of. -/
def Flags.alphabet (f : Flags) : Alphabet :=
  if f.unicode then .characters else .bytes

/-- The pattern of a class. -/
def Flags.ofSet (f : Flags) (s : CodeSet) : Pattern :=
  Pattern.ofSet f.alphabet s

/-- The characters that the dot matches. -/
def Flags.dot? (f : Flags) : Option CodeSet :=
  if !f.unicode then none
  else if f.dotAll then some ⟨[(0, CodeSet.last)]⟩
  else if f.crlf then some (CodeSet.complement ⟨[(0x0A, 0x0A), (0x0D, 0x0D)]⟩)
  else some (CodeSet.complement ⟨[(0x0A, 0x0A)]⟩)

/-- A letter, in either case if so demanded. -/
def Flags.letter? (f : Flags) (c : Char) (byte : Bool) : Option Pattern :=
  if !f.unicode && byte && 128 ≤ c.toNat then none
  else if f.caseless then some (f.ofSet (f.fold (CodeSet.single c)))
  else some (.literal [c])

mutual

/-- The pattern of an expression, and the flags in force behind it. -/
def Expr.resolve? (f : Flags) : Expr → Option (Pattern × Flags)
  | .empty => some (.empty, f)
  | .flags change => some (.empty, f.apply change)
  | .literal c byte => (f.letter? c byte).map (·, f)
  | .dot => f.dot?.map fun s => (f.ofSet s, f)
  | .anchor a => some (.look (a.look f), f)
  | .property negated p => (f.property? negated p).map fun s => (f.ofSet s, f)
  | .shorthand negated kind => (f.shorthand? negated kind).map fun s => (f.ofSet s, f)
  | .bracket negated inner =>
    (ClassExpr.set? f (.bracket negated inner)).map fun s => (f.ofSet s, f)
  | .times min max greedy body =>
    match body.resolve? f with
    | some (p, f') => some (Pattern.ofTimes min max (greedy != f'.swapGreed) p, f')
    | none => none
  | .group (.capture index name) body =>
    match body.resolve? f with
    | some (p, _) => some (.group index name p, f)
    | none => none
  | .group (.plain change) body =>
    match body.resolve? (f.apply change) with
    | some (p, _) => some (p, f)
    | none => none
  | .concat items =>
    match resolveAll? f items with
    | some (ps, f') => some (Pattern.concat ps, f')
    | none => none
  | .choice branches =>
    match resolveAll? f branches with
    | some (ps, f') => some (Pattern.choice ps, f')
    | none => none

/-- The patterns of several expressions, each under the flags left by the one
before it. -/
def resolveAll? (f : Flags) : List Expr → Option (List Pattern × Flags)
  | [] => some ([], f)
  | e :: rest =>
    match e.resolve? f with
    | none => none
    | some (p, f') =>
      match resolveAll? f' rest with
      | none => none
      | some (ps, f'') => some (p :: ps, f'')

end

/-- The pattern of a whole expression. -/
def Expr.pattern? (e : Expr) : Option Pattern :=
  (e.resolve? {}).map (·.1)

end Peg.Regex
