import CookbookRules.Text.Utf8
import CookbookRules.Yaml.Token

/-!
# Scanning

A scan reads from a cursor and moves it on. The scans of this module read names, tags, directives and
the rest of a line after an indicator.
-/

namespace CookbookRules.Yaml

/-- A step that reads at a cursor. -/
abbrev Scan := StateT Cursor (Except Fault)

namespace Scan

/-- Refuses the text at the place of the cursor. -/
def refuse {α : Type} : Scan α := do
  throw (.malformed (← get).offset)

/-- Moves the cursor. -/
def move (step : Cursor → Cursor) : Scan Unit :=
  modify step

/-- Takes the longest run of characters that pass a test. -/
def run (test : Char → Bool) : Scan (List Char) :=
  modifyGet (·.span test)

/-- Takes spaces. -/
def spaces : Scan Unit :=
  move (·.skip (· == ' '))

/-- Refuses the text unless the next place passes a test. -/
def require (test : Option Char → Bool) : Scan Unit := do
  unless test (← get).peek do refuse

/-- Takes a line break if there is one. -/
def lineBreak? : Scan (Option Char) := do
  match (← get).lineBreak? with
  | some (c, next) => set next; pure (some c)
  | none => pure none

/-- Takes spaces and a comment, and requires the end of the line. -/
def restOfLine : Scan Unit := do
  spaces
  if (← get).nextIs (· == '#') then move (·.skip fun c => !isBreak c)
  require atLineEnd
  let _ ← lineBreak?

/-- Whether a character belongs to a name: a letter, digit, hyphen or underscore of ASCII. -/
def isNameChar (c : Char) : Bool :=
  c.isAlphanum || c = '-' || c = '_'

/-- Takes a name of at least one character. -/
def name : Scan String := do
  let cs ← run isNameChar
  if cs.isEmpty then refuse
  pure (String.ofList cs)

/-- The places where the name of an anchor may end. -/
def endsAnchor (next : Option Char) : Bool :=
  atBlank next || next.any ['?', ':', ',', ']', '}', '%', '@', '`'].contains

/-- Takes the name after the indicator of an anchor or alias. -/
def anchorName : Scan String := do
  move Cursor.advance
  let result ← name
  require endsAnchor
  pure result

/-- The value of a hexadecimal digit of ASCII. -/
def hexValue? (c : Char) : Option Nat :=
  if c.isDigit then some (c.toNat - '0'.toNat)
  else if 'a' ≤ c ∧ c ≤ 'f' then some (c.toNat - 'a'.toNat + 10)
  else if 'A' ≤ c ∧ c ≤ 'F' then some (c.toNat - 'A'.toNat + 10)
  else none

/-- Takes exactly `width` hexadecimal digits and gives their value. -/
def hexNumber (width : Nat) : Scan Nat := do
  let digits := (← get).rest.take width
  match digits.mapM hexValue? with
  | some values =>
    if values.length < width then refuse
    move (Cursor.advanceBy width)
    pure (Number.digitsValue 16 values)
  | none => refuse

/-- Takes the bytes of a row of percent escapes; the bound is the number of characters left. -/
def escapedBytes : Nat → Scan (List UInt8)
  | 0 => pure []
  | bound + 1 => do
    if (← get).nextIs (· == '%') then
      move Cursor.advance
      let code ← hexNumber 2
      let rest ← escapedBytes bound
      pure (code.toUInt8 :: rest)
    else pure []

/-- Takes a row of percent escapes, which must spell characters in UTF-8. -/
def escapes : Scan (List Char) := do
  let here ← get
  let bytes ← escapedBytes here.left
  match Text.Utf8.decode bytes with
  | .ok cs => pure cs
  | .error _ => throw (.malformed here.offset)

/-- Whether a character may stand in a tag as itself. -/
def isUriChar (c : Char) : Bool :=
  c.isAlphanum ||
    ['-', ';', '/', '?', ':', '@', '&', '=', '+', '$', ',', '_', '.', '!', '~', '*', '\'', '(', ')',
      '[', ']'].contains c

/-- Takes the characters of a tag with its escapes resolved; the bound is the number of characters
left. -/
def uriChars : Nat → Scan (List Char)
  | 0 => pure []
  | bound + 1 => do
    let here ← get
    if here.nextIs isUriChar then
      let cs ← run isUriChar
      pure (cs ++ (← uriChars bound))
    else if here.nextIs (· == '%') then
      let cs ← escapes
      pure (cs ++ (← uriChars bound))
    else pure []

/-- Takes the address part of a tag, at least one character as written. -/
def uri : Scan String := do
  let here ← get
  let cs ← uriChars here.left
  if (← get).offset = here.offset then refuse
  pure (String.ofList cs)

/-- Takes the handle of a tag: one exclamation mark, or a name between two. -/
def handle : Scan String := do
  require (· == some '!')
  move Cursor.advance
  if (← get).nextIs (· == ' ') then pure "!"
  else
    let cs ← run isNameChar
    require (· == some '!')
    move Cursor.advance
    pure (String.ofList ('!' :: cs ++ ['!']))

/-- Whether a tag names its handle: an exclamation mark comes before the end of the word. -/
def usesHandle (word : List Char) : Bool :=
  (word.takeWhile fun c => !(c = ' ' || isBreak c)).contains '!'

/-- Takes a tag: verbatim between angle brackets, the lone exclamation mark, or handle and suffix. -/
def tag : Scan TokenKind := do
  let after := (← get).advance
  let kind ←
    if after.nextIs (· == '<') then do
      set after.advance
      let suffix ← uri
      require (· == some '>')
      move Cursor.advance
      pure (TokenKind.tag none suffix)
    else if atBlank after.peek then do
      set after
      pure (TokenKind.tag none "!")
    else if usesHandle after.rest then do
      let used ← handle
      pure (TokenKind.tag (some used) (← uri))
    else do
      set after
      pure (TokenKind.tag (some "!") (← uri))
  require atSpace
  pure kind

/-- Takes a decimal number of a directive. -/
def directiveNumber : Scan Nat := do
  let digits ← run Char.isDigit
  if digits.isEmpty then refuse
  if Number.digitLimit < digits.length then throw (.scalar (.numeral (.tooLong digits.length)))
  pure (Number.digitsValue 10 (digits.map fun c => c.toNat - '0'.toNat))

/-- Takes a directive with its line. -/
def directive : Scan (TokenKind × Mark) := do
  move Cursor.advance
  let word ← name
  require atSpace
  let kind ←
    if word = "YAML" then do
      spaces
      let major ← directiveNumber
      require (· == some '.')
      move Cursor.advance
      let minor ← directiveNumber
      require atSpace
      pure (TokenKind.versionDirective major minor)
    else if word = "TAG" then do
      spaces
      let used ← handle
      require (· == some ' ')
      spaces
      let replacement ← uri
      require atSpace
      pure (TokenKind.tagDirective used replacement)
    else pure TokenKind.otherDirective
  let stop := (← get).offset
  if kind = .otherDirective then move (·.skip fun c => !isBreak c)
  restOfLine
  pure (kind, stop)

end Scan

end CookbookRules.Yaml
