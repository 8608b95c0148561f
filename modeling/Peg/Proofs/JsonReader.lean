import Peg.Decimal.Read
import Peg.Value.Basic

/-!
A reader of JSON text.

It keeps the fields of an object in their order and keeps names that repeat. Blanks may
stand around every value, name and mark; a text may escape any of its characters; a
numeral is a whole number unless it has a point or an exponent. Nothing else is read: no
zero before another digit, no control character in a text, no comma before a closing
bracket, and neither truth value, since no value of a parse stands for one.
-/
namespace Peg.JsonReader

/-- A character that may stand around values and marks. -/
def isBlank (c : Char) : Bool :=
  c == ' ' || c == '\t' || c == '\n' || c == '\r'

/-- The text from its first character on that is not blank. -/
def skipBlanks (cs : List Char) : List Char :=
  cs.dropWhile isBlank

/-! ### Texts -/

/-- What a hexadecimal digit stands for, in upper or lower case. -/
def hexValue? (c : Char) : Option Nat :=
  if c.isDigit then some (c.toNat - '0'.toNat)
  else if 'a' ≤ c ∧ c ≤ 'f' then some (c.toNat - 'a'.toNat + 10)
  else if 'A' ≤ c ∧ c ≤ 'F' then some (c.toNat - 'A'.toNat + 10)
  else none

/-- The number that the four hexadecimal digits at the front stand for. -/
def unit? : List Char → Option (Nat × List Char)
  | a :: b :: c :: d :: rest => do
    let a ← hexValue? a
    let b ← hexValue? b
    let c ← hexValue? c
    let d ← hexValue? d
    some (0x1000 * a + 0x100 * b + 0x10 * c + d, rest)
  | _ => none

/-- The character that is given by one number, or by the two numbers of a surrogate
pair. -/
def numbered? (cs : List Char) : Option (Char × List Char) := do
  let (first, rest) ← unit? cs
  if 0xD800 ≤ first ∧ first < 0xDC00 then
    match rest with
    | '\\' :: 'u' :: rest =>
      let (second, rest) ← unit? rest
      if 0xDC00 ≤ second ∧ second < 0xE000 then
        some (Char.ofNat (0x10000 + 0x400 * (first - 0xD800) + (second - 0xDC00)), rest)
      else none
    | _ => none
  else if 0xDC00 ≤ first ∧ first < 0xE000 then none
  else some (Char.ofNat first, rest)

/-- The character that a letter or mark behind a backslash stands for. -/
def named? : Char → Option Char
  | '"' => some '"'
  | '\\' => some '\\'
  | '/' => some '/'
  | 'b' => some '\x08'
  | 'f' => some '\x0c'
  | 'n' => some '\n'
  | 'r' => some '\r'
  | 't' => some '\t'
  | _ => none

/-- The character that is escaped behind a backslash. -/
def escaped? : List Char → Option (Char × List Char)
  | 'u' :: rest => numbered? rest
  | c :: rest => (named? c).map (·, rest)
  | [] => none

/-- The characters up to the closing quote, of which there are fewer than `fuel`. -/
def characters? : Nat → List Char → Option (List Char × List Char)
  | 0, _ => none
  | _ + 1, [] => none
  | fuel + 1, c :: rest =>
    if c = '"' then some ([], rest)
    else if c = '\\' then do
      let (d, rest) ← escaped? rest
      let (ds, rest) ← characters? fuel rest
      some (d :: ds, rest)
    else if c.toNat < 0x20 then none
    else do
      let (ds, rest) ← characters? fuel rest
      some (c :: ds, rest)

/-- The text in quotes at the front. -/
def quoted? : List Char → Option (String × List Char)
  | '"' :: rest => do
    let (cs, rest) ← characters? rest.length rest
    some (String.ofList cs, rest)
  | _ => none

/-! ### Numbers -/

/-- A character that a numeral may have. -/
def isNumeral (c : Char) : Bool :=
  c.isDigit || c == '-' || c == '+' || c == '.' || c == 'e' || c == 'E'

/-- Whether digits are the whole part of a numeral: some digits, and no zero before
another one. -/
def isWhole : List Char → Bool
  | [] => false
  | ['0'] => true
  | d :: _ => d != '0'

/-- The digits of a numeral behind its sign, if it has one. -/
def unsigned : List Char → Bool × List Char
  | '-' :: body => (true, body)
  | body => (false, body)

/-- The number that a numeral stands for: whole digits, then a point with digits or
not, then an exponent or not. -/
def numeral? (cs : List Char) : Option Value :=
  let (negative, body) := unsigned cs
  let (whole, tail) := Decimal.splitDigits body
  if isWhole whole = false then none
  else match tail with
    | [] => some (.integer (if negative then -(Decimal.ofDigits whole : Int)
        else Decimal.ofDigits whole))
    | '.' :: behind =>
      if (Decimal.splitDigits behind).1 = [] then none
      else (Decimal.readDouble? cs).map .float
    | _ => (Decimal.readDouble? cs).map .float

/-- The number at the front, which is as long as it can be. -/
def number? (cs : List Char) : Option (Value × List Char) :=
  (numeral? (cs.takeWhile isNumeral)).map (·, cs.dropWhile isNumeral)

/-! ### Lists and objects -/

section Entries

variable {α : Type} (item? : List Char → Option (α × List Char))

/-- At least one entry and fewer than `fuel` of them, divided by commas, up to the
closing bracket. -/
def entries? (closing : Char) : Nat → List Char → Option (List α × List Char)
  | 0, _ => none
  | fuel + 1, cs => do
    let (e, rest) ← item? (skipBlanks cs)
    match skipBlanks rest with
    | [] => none
    | c :: rest =>
      if c = closing then some ([e], rest)
      else if c = ',' then do
        let (es, rest) ← entries? closing fuel rest
        some (e :: es, rest)
      else none

/-- The entries behind an opening bracket, if there are any, up to the closing one. -/
def group? (closing : Char) (cs : List Char) : Option (List α × List Char) :=
  match skipBlanks cs with
  | [] => none
  | c :: rest => if c = closing then some ([], rest) else entries? item? closing cs.length cs

/-- A name in quotes, a colon and an entry. -/
def pair? (cs : List Char) : Option ((String × α) × List Char) := do
  let (name, rest) ← quoted? cs
  match skipBlanks rest with
  | ':' :: rest =>
    let (e, rest) ← item? (skipBlanks rest)
    some ((name, e), rest)
  | _ => none

end Entries

/-- The value at the front, in which there are fewer than `depth` brackets around each
part. -/
def value? : Nat → List Char → Option (Value × List Char)
  | 0, _ => none
  | depth + 1, cs =>
    match cs with
    | 'n' :: 'u' :: 'l' :: 'l' :: rest => some (.null, rest)
    | '"' :: _ => (quoted? cs).map fun (s, rest) => (.text s, rest)
    | '[' :: rest => (group? (value? depth) ']' rest).map fun (vs, rest) => (.list vs, rest)
    | '\x7b' :: rest =>
      (group? (pair? (value? depth)) '\x7d' rest).map fun (vs, rest) => (.object vs, rest)
    | _ => number? cs

/-- The value that a text stands for, if all of it is one value. -/
def read? (s : String) : Option Value := do
  let (v, rest) ← value? s.length (skipBlanks s.toList)
  if skipBlanks rest = [] then some v else none

end Peg.JsonReader
