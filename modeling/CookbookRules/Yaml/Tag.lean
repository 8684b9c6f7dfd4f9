import CookbookRules.Calendar

/-!
# Tags

A tag says which value a node stands for. A plain scalar without a tag gets one from its form: the
module recognizes the forms of null, booleans, numbers and timestamps, and of the two special keys.
-/

namespace CookbookRules.Yaml

/-- The tags that have a meaning, and all others. -/
inductive Tag
  | null
  | bool
  | int
  | float
  | binary
  | timestamp
  | omap
  | pairs
  | set
  | text
  | sequence
  | mapping
  | merge
  | value
  | other (name : String)
  deriving DecidableEq, Repr

namespace Tag

/-- What the names of all common tags begin with. -/
def commonStart : String := "tag:yaml.org,2002:"

/-- The common tags by the ends of their names. -/
def common : List (String × Tag) :=
  [("null", null), ("bool", bool), ("int", int), ("float", float), ("binary", binary),
    ("timestamp", timestamp), ("omap", omap), ("pairs", pairs), ("set", set), ("str", text),
    ("seq", sequence), ("map", mapping), ("merge", merge), ("value", value)]

/-- The tag of a full name. -/
def ofName (name : String) : Tag :=
  ((common.map fun (ending, tag) => (commonStart ++ ending, tag)).lookup name).getD (.other name)

/-- Whether a tag reads scalars. -/
def readsScalar : Tag → Bool
  | null | bool | int | float | timestamp | text | binary => true
  | _ => false

/-! ## The forms of plain scalars -/

/-- Removes one sign. -/
def afterSign : List Char → List Char
  | '+' :: rest => rest
  | '-' :: rest => rest
  | cs => cs

/-- Whether a row of characters is not empty and made of characters that pass a test. -/
def isRow (test : Char → Bool) (cs : List Char) : Bool :=
  !cs.isEmpty && cs.all test

/-- A digit or an underscore. -/
def isDigitOrGap (c : Char) : Bool := c.isDigit || c = '_'

/-- Whether a row begins with a digit and goes on with digits and underscores. -/
def isDigitRow : List Char → Bool
  | [] => false
  | c :: rest => c.isDigit && rest.all isDigitOrGap

/-- Whether a part of a number in base 60 is one digit, or two of which the first is below six. -/
def isSexagesimalPart : List Char → Bool
  | [a] => a.isDigit
  | [a, b] => '0' ≤ a && a ≤ '5' && b.isDigit
  | _ => false

/-- The parts of a text between colons. -/
def colonParts (cs : List Char) : List (List Char) :=
  cs.foldr
    (fun c parts =>
      match parts with
      | [] => [[c]]
      | part :: rest => if c = ':' then [] :: part :: rest else (c :: part) :: rest)
    [[]]

/-- Whether a text is an integer in base 60: at least two parts, the first without a leading zero. -/
def isSexagesimalInt (cs : List Char) : Bool :=
  match colonParts cs with
  | first :: second :: more =>
    isDigitRow first && first.head? != some '0' && (second :: more).all isSexagesimalPart
  | _ => false

/-- Whether a text is an integer, without its sign. -/
def isUnsignedInt : List Char → Bool
  | '0' :: 'b' :: rest => isRow (fun c => c = '0' || c = '1' || c = '_') rest
  | '0' :: 'x' :: rest =>
    isRow (fun c => isDigitOrGap c || ('a' ≤ c && c ≤ 'f') || ('A' ≤ c && c ≤ 'F')) rest
  | '0' :: rest => rest.all fun c => ('0' ≤ c && c ≤ '7') || c = '_'
  | cs => isDigitRow cs || isSexagesimalInt cs

/-- Whether a text is an integer. -/
def isInt (cs : List Char) : Bool := isUnsignedInt (afterSign cs)

/-- Whether a text is empty or an exponent with a sign. -/
def isExponent : List Char → Bool
  | [] => true
  | e :: sign :: rest => (e = 'e' || e = 'E') && (sign = '+' || sign = '-') && isRow Char.isDigit rest
  | _ => false

/-- Whether a text goes on, after the point of a decimal, with digits and an exponent. -/
def isFraction (cs : List Char) : Bool :=
  isExponent (cs.dropWhile isDigitOrGap)

/-- Whether a text is a floating point number in base 60. -/
def isSexagesimalFloat (cs : List Char) : Bool :=
  match cs.span (· != '.') with
  | (whole, '.' :: fraction) =>
    fraction.all isDigitOrGap &&
      match colonParts whole with
      | first :: second :: more => isDigitRow first && (second :: more).all isSexagesimalPart
      | _ => false
  | _ => false

/-- Whether a text is a floating point number. A sign needs a digit before the point. -/
def isFloat (cs : List Char) : Bool :=
  let unsigned := afterSign cs
  let word := String.ofList unsigned
  match unsigned with
  | '.' :: rest =>
    word = ".inf" || word = ".Inf" || word = ".INF" ||
      (unsigned.length = cs.length &&
        (word = ".nan" || word = ".NaN" || word = ".NAN" ||
          (rest.head?.any Char.isDigit && isFraction rest)))
  | _ =>
    (match unsigned.span (· != '.') with
      | (whole, '.' :: rest) => isDigitRow whole && isFraction rest
      | _ => false) || isSexagesimalFloat unsigned

/-- The words for true and false. -/
def boolWords : List (String × Bool) :=
  [("yes", true), ("no", false), ("true", true), ("false", false), ("on", true), ("off", false)]

/-- A word in lower case, with one capital in front, or in capitals. -/
def isCased (word : String) (s : String) : Bool :=
  s = word || s = word.capitalize || s = word.toUpper

/-! ## Timestamps -/

/-- The fields of a timestamp as written. -/
structure Stamp where
  date : Calendar.Date
  time : Option (Nat × Nat × Nat × List Char)
  offset : Option Int
  deriving DecidableEq, Repr

/-- The value of a row of digits of ASCII. -/
def digits (cs : List Char) : Nat :=
  cs.foldl (fun n c => n * 10 + (c.toNat - '0'.toNat)) 0

/-- Reads at least `least` and at most two digits. -/
def readField? (least : Nat) (cs : List Char) : Option (Nat × List Char) :=
  let field := (cs.take 2).takeWhile Char.isDigit
  if field.length < least then none else some (digits field, cs.drop field.length)

/-- Reads a given character. -/
def readMark? (c : Char) : List Char → Option (List Char)
  | d :: rest => if d = c then some rest else none
  | [] => none

/-- A space or a tab. -/
def isWhite (c : Char) : Bool := c = ' ' || c = '\t'

/-- Reads the zone at the end of a timestamp: nothing, `Z`, or a signed distance in hours and minutes. -/
def readZone? (cs : List Char) : Option (Option Int) := do
  match cs.dropWhile isWhite with
  | [] => if cs.isEmpty then some none else none
  | ['Z'] => some (some 0)
  | sign :: rest =>
    let negative ← if sign = '-' then some true else if sign = '+' then some false else none
    let (hours, rest) ← readField? 1 rest
    let minutes ←
      match rest with
      | [] => some 0
      | ':' :: rest => do
        let (minutes, rest) ← readField? 2 rest
        if rest.isEmpty then some minutes else none
      | _ => none
    let seconds : Int := hours * 3600 + minutes * 60
    some (some (if negative then -seconds else seconds))

/-- Reads the time of day and the zone. -/
def readTime? (cs : List Char) : Option ((Nat × Nat × Nat × List Char) × Option Int) := do
  let (hour, cs) ← readField? 1 cs
  let (minute, cs) ← readField? 2 (← readMark? ':' cs)
  let (second, cs) ← readField? 2 (← readMark? ':' cs)
  let (fraction, cs) :=
    match cs with
    | '.' :: rest => (rest.takeWhile Char.isDigit, rest.dropWhile Char.isDigit)
    | rest => ([], rest)
  let zone ← readZone? cs
  pure ((hour, minute, second, fraction), zone)

/-- Reads a timestamp: a date, or a date and a time after a `T` or white space. -/
def readStamp? (cs : List Char) : Option Stamp := do
  let year := cs.take 4
  if year.length < 4 || !year.all Char.isDigit then none
  let (month, cs) ← readField? 1 (← readMark? '-' (cs.drop 4))
  let (day, cs) ← readField? 1 (← readMark? '-' cs)
  let date : Calendar.Date := ⟨digits year, month, day⟩
  match cs with
  | [] => pure ⟨date, none, none⟩
  | c :: rest =>
    let start ←
      if c = 'T' || c = 't' then some rest
      else if isWhite c then some (rest.dropWhile isWhite)
      else none
    let (time, zone) ← readTime? start
    pure ⟨date, some time, zone⟩

/-- Whether a plain scalar is a timestamp; a date alone has two digits for month and day. -/
def isTimestamp (cs : List Char) : Bool :=
  match readStamp? cs with
  | some stamp => stamp.time.isSome || cs.length = 10
  | none => false

/-! ## Resolution -/

/-- A text without one line feed at its end. -/
def dropLastBreak (cs : List Char) : List Char :=
  if cs.getLast? = some '\n' then cs.dropLast else cs

/-- The tag of a plain scalar. -/
def ofPlain (s : String) : Tag :=
  let cs := dropLastBreak s.toList
  let word := String.ofList cs
  if s = "" || word = "~" || isCased "null" word then .null
  else if boolWords.any fun (name, _) => isCased name word then .bool
  else if isInt cs then .int
  else if isFloat cs then .float
  else if word = "<<" then .merge
  else if isTimestamp cs then .timestamp
  else if word = "=" then .value
  else .text

end Tag

end CookbookRules.Yaml
