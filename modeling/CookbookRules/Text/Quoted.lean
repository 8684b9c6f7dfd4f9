import CookbookRules.Text.Printable
import CookbookRules.Text.Spelling

/-!
# Quoted texts

The quoted form of a text or of bytes, as messages show them. A text is put between apostrophes, or
between double quotes when it holds an apostrophe and no double quote. Inside, the backslash and the
quote in use are escaped, tab, line feed and carriage return have short escapes, and every other
character that is not printable is written by its number in lower-case hexadecimal.
-/

namespace CookbookRules.Text

/-- The last `width` hexadecimal digits of a number, in lower case. -/
def hexDigits (width n : Nat) : List Char :=
  let digits := Nat.toDigits 16 n
  List.replicate (width - digits.length) '0' ++ digits

/-- The quote that a text is put between. -/
def quoteFor (cs : List Char) : Char :=
  if cs.contains '\'' && !cs.contains '"' then '"' else '\''

/-- A character's number behind a backslash, in the shortest of the three widths. -/
def escapeByNumber (n : Nat) : List Char :=
  if n < 0x100 then '\\' :: 'x' :: hexDigits 2 n
  else if n < 0x10000 then '\\' :: 'u' :: hexDigits 4 n
  else '\\' :: 'U' :: hexDigits 8 n

/-- The escapes that texts and bytes share, or the given form where none applies. -/
def escapeWith (quote : Char) (other : Char → List Char) (c : Char) : List Char :=
  if c = quote || c = '\\' then ['\\', c]
  else if c = '\t' then ['\\', 't']
  else if c = '\n' then ['\\', 'n']
  else if c = '\r' then ['\\', 'r']
  else other c

/-- A character inside a quoted text. -/
def escapeChar (quote : Char) : Char → List Char :=
  escapeWith quote fun c => if isPrintable c then [c] else escapeByNumber c.toNat

/-- The quoted form of a text. -/
def quoted (s : String) : String :=
  let cs := s.toList
  let quote := quoteFor cs
  String.ofList (quote :: cs.flatMap (escapeChar quote) ++ [quote])

/-- A number inside a quoted row: a half has no form but its number. -/
def escapeCode (quote : Char) (code : Nat) : List Char :=
  if isHalf code then escapeByNumber code else escapeChar quote (Char.ofNat code)

/-- The quoted form of a row of numbers with halves of surrogate pairs among them. -/
def quotedCodes (codes : List Nat) : String :=
  let quote := quoteFor (mend codes)
  String.ofList (quote :: codes.flatMap (escapeCode quote) ++ [quote])

/-- A byte inside quoted bytes: only printable ASCII stands for itself. -/
def escapeByte (quote : Char) : Char → List Char :=
  escapeWith quote fun c =>
    if 0x20 ≤ c.toNat && c.toNat < 0x7F then [c] else '\\' :: 'x' :: hexDigits 2 c.toNat

/-- The quoted form of bytes: a `b` before the quotes. -/
def quotedBytes (bytes : List UInt8) : String :=
  let cs := bytes.map fun b => Char.ofNat b.toNat
  let quote := quoteFor cs
  String.ofList ('b' :: quote :: cs.flatMap (escapeByte quote) ++ [quote])

end CookbookRules.Text
