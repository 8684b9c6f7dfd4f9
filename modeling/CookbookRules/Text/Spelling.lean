/-!
# Spellings

What a scalar spells. An escape can name a half of a surrogate pair, which is no character. A spelling
with such halves is the row of the numbers of its characters and halves; two halves that would make a pair
stay two. Where texts of characters are compared, halves are mended first, so that spellings which differ only
in their halves count as equal there.
-/

namespace CookbookRules.Text

/-- Whether a number is that of the first half of a surrogate pair. -/
def isHighHalf (code : Nat) : Bool := 0xD800 ≤ code && code < 0xDC00

/-- Whether a number is that of the second half of a surrogate pair. -/
def isLowHalf (code : Nat) : Bool := 0xDC00 ≤ code && code < 0xE000

/-- Whether a number is that of a half of a surrogate pair. -/
def isHalf (code : Nat) : Bool := isHighHalf code || isLowHalf code

/-- The character that a half is read as where only characters can stand. -/
def replacement : Char := '\uFFFD'

/-- The character of a number, or the replacement of a half. -/
def charOfCode (code : Nat) : Char :=
  if isHalf code then replacement else Char.ofNat code

/-- The nearest text of characters only: the halves of a pair, one after the other, are the character of
the pair. All other halves become the same character, so they are not told apart any more. -/
def mend : List Nat → List Char
  | [] => []
  | [code] => [charOfCode code]
  | high :: low :: rest =>
    if isHighHalf high && isLowHalf low then
      Char.ofNat (0x10000 + (high - 0xD800) * 0x400 + (low - 0xDC00)) :: mend rest
    else charOfCode high :: mend (low :: rest)

/-- A text, or a row of numbers with halves of surrogate pairs among them. -/
inductive Spelling
  | whole (s : String)
  | broken (codes : List Nat)
  deriving DecidableEq, Repr

namespace Spelling

/-- The spelling of a row of numbers. -/
def ofCodes (codes : List Nat) : Spelling :=
  if codes.any isHalf then broken codes else whole (String.ofList (codes.map Char.ofNat))

/-- The text of a spelling, or the nearest one. -/
def text : Spelling → String
  | whole s => s
  | broken codes => String.ofList (mend codes)

end Spelling

end CookbookRules.Text
