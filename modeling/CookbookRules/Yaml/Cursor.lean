/-!
# Positions in a text

A cursor is a place in a text: the characters that follow and their number, and offset, line and column
of the place.
A mark is an offset alone; `lineAt` counts the line breaks before it, so the line of any mark lies
between the first line and the line after the last break.
-/

namespace CookbookRules.Yaml

/-- An offset in a text, counted in characters. -/
abbrev Mark := Nat

/-- Whether a character belongs to a line break. -/
def isBreak (c : Char) : Bool :=
  c = '\n' || c = '\r' || c = '\u0085' || c = '\u2028' || c = '\u2029'

/-- Whether a character ends its line, given what follows: `\r\n` is one break, at its second character. -/
def endsLine (c : Char) (rest : List Char) : Bool :=
  if c = '\r' then rest.head? != some '\n' else isBreak c

/-- The number of line breaks among the first `n` characters. -/
def breaksBefore : Nat → List Char → Nat
  | 0, _ | _, [] => 0
  | n + 1, c :: rest => (if endsLine c rest then 1 else 0) + breaksBefore n rest

/-- The number of line breaks in a text. -/
def breakCount : List Char → Nat
  | [] => 0
  | c :: rest => (if endsLine c rest then 1 else 0) + breakCount rest

/-- The line of a mark, counted from one. -/
def lineAt (text : List Char) (mark : Mark) : Nat :=
  breaksBefore mark text + 1

theorem breaksBefore_le_breakCount (n : Nat) (cs : List Char) :
    breaksBefore n cs ≤ breakCount cs := by
  induction n generalizing cs with
  | zero => simp [breaksBefore]
  | succ n ih =>
    cases cs with
    | nil => simp [breaksBefore]
    | cons c rest => simpa [breaksBefore, breakCount] using ih rest

/-- A place in a text. The number of characters left bounds the scans from there. -/
structure Cursor where
  rest : List Char
  offset : Mark
  line : Nat
  column : Nat
  left : Nat
  left_eq : left = rest.length
  deriving Repr

namespace Cursor

/-- The beginning of a text. -/
def start (text : List Char) : Cursor := ⟨text, 0, 0, 0, text.length, rfl⟩

/-- The next character. -/
def peek (c : Cursor) : Option Char := c.rest.head?

/-- The character `n` places on. -/
def peekAt (c : Cursor) (n : Nat) : Option Char := c.rest[n]?

/-- Whether the next character passes a test. -/
def nextIs (c : Cursor) (test : Char → Bool) : Bool :=
  c.peek.any test

/-- One character on. A byte order mark takes no column. -/
def advance (c : Cursor) : Cursor :=
  match h : c.rest with
  | [] => c
  | ch :: rest =>
    have left_eq : c.left - 1 = rest.length := by simp [c.left_eq, h]
    if endsLine ch rest then ⟨rest, c.offset + 1, c.line + 1, 0, c.left - 1, left_eq⟩
    else
      let column := if ch = '\uFEFF' then c.column else c.column + 1
      ⟨rest, c.offset + 1, c.line, column, c.left - 1, left_eq⟩

/-- Several characters on. -/
def advanceBy : Nat → Cursor → Cursor
  | 0, c => c
  | n + 1, c => advanceBy n c.advance

@[simp] theorem advance_rest (c : Cursor) : c.advance.rest = c.rest.tail := by
  unfold advance
  split
  · next h => simp [h]
  · next h => split <;> simp [h]

/-- The longest run of characters that pass a test, and the place after it. -/
def span (test : Char → Bool) (c : Cursor) : List Char × Cursor :=
  let run := c.rest.takeWhile test
  (run, c.advanceBy run.length)

/-- The place after a run of characters that pass a test. -/
def skip (test : Char → Bool) (c : Cursor) : Cursor :=
  (c.span test).2

/-- Takes one line break. `\r`, `\n`, `\r\n` and U+0085 are read as a line feed, the two separators
U+2028 and U+2029 as themselves. -/
def lineBreak? (c : Cursor) : Option (Char × Cursor) :=
  match c.rest with
  | '\r' :: '\n' :: _ => some ('\n', c.advanceBy 2)
  | ch :: _ =>
    if ch = '\u2028' || ch = '\u2029' then some (ch, c.advance)
    else if isBreak ch then some ('\n', c.advance)
    else none
  | [] => none

end Cursor

/-- Whether a place is the end of the text or of a line. -/
def atLineEnd (next : Option Char) : Bool :=
  next.all isBreak

/-- Whether a place is a space or the end of the text or of a line. -/
def atSpace (next : Option Char) : Bool :=
  next.all fun c => c = ' ' || isBreak c

/-- Whether a place is a space, a tab or the end of the text or of a line. -/
def atBlank (next : Option Char) : Bool :=
  next.all fun c => c = ' ' || c = '\t' || isBreak c

/-- Whether a document marker, three equal characters and a blank, stands at a place. -/
def Cursor.atMarker (c : Cursor) (ch : Char) : Bool :=
  c.rest.take 3 == [ch, ch, ch] && atBlank (c.peekAt 3)

/-- Whether either document marker stands at a place. -/
def Cursor.atSeparator (c : Cursor) : Bool :=
  c.atMarker '-' || c.atMarker '.'

/-- The characters that a text may hold. -/
def isAllowed (c : Char) : Bool :=
  let n := c.toNat
  n == 0x09 || n == 0x0A || n == 0x0D || (0x20 ≤ n && n ≤ 0x7E) || n == 0x85 ||
    (0xA0 ≤ n && n ≤ 0xD7FF) || (0xE000 ≤ n && n ≤ 0xFFFD) || 0x10000 ≤ n

end CookbookRules.Yaml
