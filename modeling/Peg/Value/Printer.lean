import Peg.Decimal.Layout
import Peg.Palette
import Peg.Text.Quoted
import Peg.Value.Basic

/-!
Values in text, in three forms: `format` for people, in one line or indented
and with or without colour; `json` for other programs; and `inspect`, which
names the kind of every part.
-/
namespace Peg.Value

/-- Doubles for people: without an exponent from 0.0001 up to 10 ^ 16. -/
def plainFloat : Decimal.Layout where
  least := -4
  greatest := 15
  plus := false
  tie := .up
  nan := "NaN"
  infinity := "inf"
  negativeInfinity := "-inf"

/-- Doubles in JSON: without an exponent from 0.00001 up to 10 ^ 16, and null
where there is no finite number. -/
def jsonFloat : Decimal.Layout where
  least := -5
  greatest := 15
  plus := true
  tie := .even
  nan := "null"
  infinity := "null"
  negativeInfinity := "null"

/-- The decimal digits of a whole number after its sign. -/
def decimal (n : Int) : List Char :=
  if n < 0 then '-' :: Nat.toDigits 10 n.natAbs else Nat.toDigits 10 n.natAbs

/-- Whether a character is a control character. -/
def isControl (c : Char) : Bool :=
  c.toNat < 0x20 || (0x7F ≤ c.toNat && c.toNat ≤ 0x9F)

theorem toNat_lt_of_isControl {c : Char} (h : isControl c = true) : c.toNat < 0xA0 := by
  simp only [isControl, Bool.or_eq_true, Bool.and_eq_true, decide_eq_true_eq] at h
  omega

/-- A character by its number, in four hexadecimal digits. -/
def numbered (c : Char) : List Char :=
  let digits := hexDigits c.toNat
  '\\' :: 'u' :: (List.replicate (4 - digits.length) '0' ++ digits)

/-- A character inside the quotes of `format`: no control character is left
as it is. -/
def escape (c : Char) : List Char :=
  match c with
  | '"' => ['\\', '"']
  | '\\' => ['\\', '\\']
  | '\n' => ['\\', 'n']
  | '\r' => ['\\', 'r']
  | '\t' => ['\\', 't']
  | c => if isControl c then numbered c else [c]

/-- A character inside the quotes of `json`: only the characters that JSON
forbids there are escaped. -/
def escapeJson (c : Char) : List Char :=
  match c with
  | '"' => ['\\', '"']
  | '\\' => ['\\', '\\']
  | '\n' => ['\\', 'n']
  | '\r' => ['\\', 'r']
  | '\t' => ['\\', 't']
  | '\x08' => ['\\', 'b']
  | '\x0c' => ['\\', 'f']
  | c => if c.toNat < 0x20 then numbered c else [c]

/-- A text in double quotes. -/
def quote (escape : Char → List Char) (s : String) : List Char :=
  '"' :: (s.toList.flatMap escape ++ ['"'])

/-- How `format` lays out a value. -/
structure Style where
  /-- Whether every entry of a list or object has a line of its own. -/
  pretty : Bool
  palette : Palette

namespace Style

def dim (st : Style) (text : List Char) : List Char :=
  st.palette.paint st.palette.dim text

def green (st : Style) (text : List Char) : List Char :=
  st.palette.paint st.palette.green text

def blue (st : Style) (text : List Char) : List Char :=
  st.palette.paint st.palette.blue text

/-- What stands before an entry: in the pretty layout a new line. -/
def lead (st : Style) (indent : Nat) : List Char :=
  if st.pretty then '\n' :: List.replicate indent ' ' else []

/-- Every entry after the first one, each with the comma before it. -/
def further (st : Style) (indent : Nat) (entries : List (List Char)) : List Char :=
  entries.flatMap fun e =>
    st.dim [','] ++ (if st.pretty then st.lead indent else [' ']) ++ e

/-- Entries between brackets, two columns further in. -/
def group (st : Style) (opening closing : Char) (indent : Nat) :
    List (List Char) → List Char
  | [] => st.dim [opening] ++ st.dim [closing]
  | e :: rest =>
    st.dim [opening] ++ st.lead (indent + 2) ++ e ++ st.further (indent + 2) rest
      ++ st.lead indent ++ st.dim [closing]

end Style

mutual

/-- A value at a given indentation. -/
def chars (st : Style) (indent : Nat) : Value → List Char
  | null => st.dim "null".toList
  | text s => st.green (quote escape s)
  | integer n => decimal n
  | float x => plainFloat.write x
  | list items => st.group '[' ']' indent (itemChars st (indent + 2) items)
  | object fields => st.group '\x7b' '\x7d' indent (fieldChars st (indent + 2) fields)

/-- Each item of a list. -/
def itemChars (st : Style) (indent : Nat) : List Value → List (List Char)
  | [] => []
  | v :: rest => v.chars st indent :: itemChars st indent rest

/-- Each field of an object: its name in quotes, a colon and its value. -/
def fieldChars (st : Style) (indent : Nat) : List (String × Value) → List (List Char)
  | [] => []
  | (k, v) :: rest =>
    (st.blue (quote escape k) ++ st.dim [':'] ++ ' ' :: v.chars st indent)
      :: fieldChars st indent rest

end

/-- The value for people to read. -/
def format (v : Value) (pretty : Bool) (palette : Palette) : String :=
  String.ofList (v.chars ⟨pretty, palette⟩ 0)

/-- Entries divided by commas. -/
def commas (entries : List (List Char)) : List Char :=
  [','].intercalate entries

mutual

/-- A value as compact JSON. -/
def jsonChars : Value → List Char
  | null => "null".toList
  | text s => quote escapeJson s
  | integer n => decimal n
  | float x => jsonFloat.write x
  | list items => '[' :: (commas (jsonItems items) ++ [']'])
  | object fields => '\x7b' :: (commas (jsonFields fields) ++ ['\x7d'])

/-- Each item as JSON. -/
def jsonItems : List Value → List (List Char)
  | [] => []
  | v :: rest => v.jsonChars :: jsonItems rest

/-- Each field as JSON. -/
def jsonFields : List (String × Value) → List (List Char)
  | [] => []
  | (k, v) :: rest => (quote escapeJson k ++ ':' :: v.jsonChars) :: jsonFields rest

end

/-- The value as compact JSON. -/
def json (v : Value) : String :=
  String.ofList v.jsonChars

mutual

/-- The value with the kind of every part. -/
def inspect : Value → String
  | null => "Null"
  | text s => "Text(" ++ Quoted.text s ++ ")"
  | integer n => "Integer(" ++ String.ofList (decimal n) ++ ")"
  | float x => "Float(" ++ String.ofList (plainFloat.write x) ++ ")"
  | list items => "List([" ++ ", ".intercalate (inspectItems items) ++ "])"
  | object fields => "Object([" ++ ", ".intercalate (inspectFields fields) ++ "])"

/-- Each item with its kind. -/
def inspectItems : List Value → List String
  | [] => []
  | v :: rest => v.inspect :: inspectItems rest

/-- Each field as a pair. -/
def inspectFields : List (String × Value) → List String
  | [] => []
  | (k, v) :: rest => ("(" ++ Quoted.text k ++ ", " ++ v.inspect ++ ")") :: inspectFields rest

end

end Peg.Value
