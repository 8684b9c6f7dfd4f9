/-!
# Blank characters and trimming

A blank is any character that Unicode counts as white space, together with the four separators
U+001C to U+001F. A text is blank when it has no other characters, and trimming removes the blanks at
both ends of a text.
-/

namespace CookbookRules.Text

/-- White space, U+001C to U+001F included; U+200B and U+FEFF are not blank. -/
def isBlank (c : Char) : Bool :=
  let n := c.toNat
  (0x09 ≤ n && n ≤ 0x0D) || (0x1C ≤ n && n ≤ 0x20) || n == 0x85 || n == 0xA0 || n == 0x1680 ||
    (0x2000 ≤ n && n ≤ 0x200A) || n == 0x2028 || n == 0x2029 || n == 0x202F || n == 0x205F ||
    n == 0x3000

/-- A text without any character that is not blank. -/
def allBlank (s : String) : Bool :=
  s.toList.all isBlank

/-- Characters without the blanks at both ends. -/
def trimList (cs : List Char) : List Char :=
  ((cs.dropWhile isBlank).reverse.dropWhile isBlank).reverse

/-- A text without the blanks at both ends. -/
def trim (s : String) : String :=
  String.ofList (trimList s.toList)

/-- The pieces between the occurrences of a separator: always one more than there are occurrences. -/
def splitOn (sep : Char → Bool) : List Char → List (List Char)
  | [] => [[]]
  | c :: rest =>
    if sep c then [] :: splitOn sep rest
    else
      match splitOn sep rest with
      | [] => [[c]]
      | piece :: pieces => (c :: piece) :: pieces

/-- Splitting always leaves a piece. -/
theorem splitOn_ne_nil (sep : Char → Bool) (cs : List Char) : splitOn sep cs ≠ [] := by
  cases cs with
  | nil => simp [splitOn]
  | cons c rest =>
    simp only [splitOn]
    split
    · simp
    · split <;> simp

/-- The pieces of a text, as texts. -/
def pieces (sep : Char) (s : String) : List String :=
  (splitOn (· == sep) s.toList).map String.ofList

end CookbookRules.Text
