/-!
Positions in a text.

A cursor splits a text into the characters before and after it and keeps its
offset, counted in bytes of UTF-8. Only boundaries between characters are
cursors, so no operation can cut a character in two.
-/
namespace Peg

/-- The number of bytes of a text in UTF-8. -/
def byteLength (cs : List Char) : Nat :=
  cs.foldr (fun c n => c.utf8Size + n) 0

@[simp] theorem byteLength_nil : byteLength [] = 0 := rfl

@[simp] theorem byteLength_cons (c : Char) (cs : List Char) :
    byteLength (c :: cs) = c.utf8Size + byteLength cs := rfl

@[simp] theorem byteLength_append (a b : List Char) :
    byteLength (a ++ b) = byteLength a + byteLength b := by
  induction a with
  | nil => simp
  | cons c cs ih => simp [ih, Nat.add_assoc]

@[simp] theorem byteLength_reverse (a : List Char) :
    byteLength a.reverse = byteLength a := by
  induction a with
  | nil => rfl
  | cons c cs ih => simp [ih, Nat.add_comm]

/-- The leading characters that fit into `n` bytes. -/
def takeBytes : Nat → List Char → List Char
  | _, [] => []
  | n, c :: cs => if c.utf8Size ≤ n then c :: takeBytes (n - c.utf8Size) cs else []

/-- Moves characters that make up exactly `n` bytes from the front of `after`
to `before`, whose nearest character comes first. There is no such cut when
`n` falls inside a character or beyond the end. -/
def cutBytes : Nat → List Char → List Char → Option (List Char × List Char)
  | 0, before, after => some (before, after)
  | _ + 1, _, [] => none
  | n + 1, before, c :: cs =>
    if c.utf8Size ≤ n + 1 then cutBytes (n + 1 - c.utf8Size) (c :: before) cs else none

theorem byteLength_of_cutBytes {n : Nat} {before after b a : List Char}
    (h : cutBytes n before after = some (b, a)) :
    byteLength b = byteLength before + n := by
  induction after generalizing n before with
  | nil => cases n <;> simp_all [cutBytes]
  | cons c cs ih =>
    cases n with
    | zero => simp_all [cutBytes]
    | succ n =>
      rw [cutBytes] at h
      split at h
      · rw [ih h]
        simp
        omega
      · simp at h

/-- A boundary between two characters of a text. -/
structure Cursor where
  /-- The characters before the boundary, the nearest first. -/
  before : List Char
  /-- The characters after the boundary. -/
  after : List Char
  /-- The distance from the start of the text in bytes. -/
  offset : Nat
  offset_eq : offset = byteLength before

namespace Cursor

/-- The boundary before the first character. -/
def start (text : List Char) : Cursor :=
  ⟨[], text, 0, rfl⟩

/-- The whole text around the cursor. -/
def text (c : Cursor) : List Char :=
  c.before.reverse ++ c.after

def atEnd (c : Cursor) : Bool :=
  c.after.isEmpty

/-- The next character. -/
def peek? (c : Cursor) : Option Char :=
  c.after.head?

/-- The character just passed. -/
def previous? (c : Cursor) : Option Char :=
  c.before.head?

/-- The cursor behind `word`, with `rest` ahead of it. -/
def past (c : Cursor) (word rest : List Char) : Cursor where
  before := word.reverse ++ c.before
  after := rest
  offset := c.offset + byteLength word
  offset_eq := by simp [c.offset_eq, Nat.add_comm]

/-- The cursor behind one character `x`, with `rest` ahead of it. -/
def step (c : Cursor) (x : Char) (rest : List Char) : Cursor where
  before := x :: c.before
  after := rest
  offset := c.offset + x.utf8Size
  offset_eq := by simp [c.offset_eq, Nat.add_comm]

/-- Moves step by step over the characters ahead, as long as they satisfy `p`. -/
def skipFrom (p : Char → Bool) (c : Cursor) : List Char → Cursor
  | [] => c
  | x :: rest => if p x then skipFrom p (c.step x rest) rest else c

/-- Moves over the longest run of characters that satisfy `p`. -/
def skipWhile (c : Cursor) (p : Char → Bool) : Cursor :=
  skipFrom p c c.after

/-- The text from `a` up to `b`, empty when `b` is not beyond `a`. -/
def upTo (a b : Cursor) : List Char :=
  takeBytes (b.offset - a.offset) a.after

/-- The boundary `offset` bytes into the text, if there is one. -/
def ofOffset? (text : List Char) (offset : Nat) : Option Cursor :=
  match h : cutBytes offset [] text with
  | some (before, after) =>
    some ⟨before, after, offset, by simp [byteLength_of_cutBytes h]⟩
  | none => none

/-- The line of the cursor, counted from one: one more than the line feeds
before it. -/
def line (c : Cursor) : Nat :=
  c.before.count '\n' + 1

/-- The column of the cursor, counted in characters from one. -/
def column (c : Cursor) : Nat :=
  (c.before.takeWhile (· != '\n')).length + 1

end Cursor

end Peg
