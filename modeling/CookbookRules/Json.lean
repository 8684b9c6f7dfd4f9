import CookbookRules.Text.Quoted

/-!
# JSON documents

Documents with integers only, and their text: ASCII alone, two spaces for each level, an empty list or
object on one line. Characters outside ASCII are written by their UTF-16 units.
-/

namespace CookbookRules

/-- A JSON document; an object keeps its fields in order. -/
inductive Json
  | null
  | bool (b : Bool)
  | int (n : Int)
  | text (s : String)
  | brokenText (codes : List Nat)
  | list (items : List Json)
  | object (fields : List (String × Json))

namespace Json

/-- A UTF-16 unit behind a backslash. -/
def escapeUnit (unit : Nat) : List Char :=
  '\\' :: 'u' :: Text.hexDigits 4 unit

/-- A character inside quotes. -/
def escapeChar (c : Char) : List Char :=
  let n := c.toNat
  if c = '"' || c = '\\' then ['\\', c]
  else if c = '\n' then ['\\', 'n']
  else if c = '\r' then ['\\', 'r']
  else if c = '\t' then ['\\', 't']
  else if n = 0x08 then ['\\', 'b']
  else if n = 0x0C then ['\\', 'f']
  else if 0x20 ≤ n && n ≤ 0x7E then [c]
  else if n < 0x10000 then escapeUnit n
  else escapeUnit (0xD800 + (n - 0x10000) / 0x400) ++ escapeUnit (0xDC00 + (n - 0x10000) % 0x400)

/-- A text in quotes. -/
def quote (s : String) : String :=
  String.ofList ('"' :: s.toList.flatMap escapeChar ++ ['"'])

/-- A row of numbers in quotes; a half of a surrogate pair is one unit. -/
def quoteCodes (codes : List Nat) : String :=
  let escapeCode (code : Nat) :=
    if Text.isHalf code then escapeUnit code else escapeChar (Char.ofNat code)
  String.ofList ('"' :: codes.flatMap escapeCode ++ ['"'])

/-- A line break and the indentation of a level. -/
def newLine (level : Nat) : String :=
  String.ofList ('\n' :: List.replicate (2 * level) ' ')

/-- Items between brackets, each on a line of its own one level deeper. -/
def bracketed (opening closing : String) (level : Nat) (items : List String) : String :=
  if items.isEmpty then opening ++ closing
  else
    opening ++ newLine (level + 1) ++ String.intercalate ("," ++ newLine (level + 1)) items ++
      newLine level ++ closing

mutual

/-- The text of a document at a level. -/
def renderAt (level : Nat) : Json → String
  | null => "null"
  | bool b => if b then "true" else "false"
  | int n => toString n
  | text s => quote s
  | brokenText codes => quoteCodes codes
  | list items => bracketed "[" "]" level (renderItems (level + 1) items)
  | object fields => bracketed "\x7b" "\x7d" level (renderFields (level + 1) fields)

/-- The texts of items. -/
def renderItems (level : Nat) : List Json → List String
  | [] => []
  | item :: rest => renderAt level item :: renderItems level rest

/-- The texts of fields: name, colon, value. -/
def renderFields (level : Nat) : List (String × Json) → List String
  | [] => []
  | (name, value) :: rest => (quote name ++ ": " ++ renderAt level value) :: renderFields level rest

end

/-- The text of a document. -/
def render (document : Json) : String := renderAt 0 document

end Json

end CookbookRules
