import CookbookRules.Number.Binary64
import CookbookRules.Text.Blank
import CookbookRules.Text.Digit
import CookbookRules.Text.Lowercase
import CookbookRules.Text.Quoted

/-!
# Reading numerals

Integers in a given base and decimal floating point numbers, as texts spell them: blanks around, one
sign in front, digits of any script. The texts that spell no number are the faults of this module.
-/

namespace CookbookRules.Number

/-- Why a text is not a numeral. -/
inductive NumeralFault
  | notInteger (base : Nat) (text : String)
  | tooLong (digits : Nat)
  | notDecimal (text : String)
  deriving DecidableEq, Repr

/-- The wording of a fault; an integer's text is shown by the first 200 characters of its quoted form. -/
def NumeralFault.message : NumeralFault → String
  | .notInteger base text =>
    let shown := String.ofList ((Text.quoted text).toList.take 200)
    s!"invalid literal for int() with base {base}: {shown}"
  | .tooLong digits =>
    s!"Exceeds the limit (4300 digits) for integer string conversion: value has {digits} digits; " ++
      "use sys.set_int_max_str_digits() to increase the limit"
  | .notDecimal text => s!"could not convert string to float: {Text.quoted text}"

/-- The most digits that an integer may have in a base that is no power of two. -/
def digitLimit : Nat := 4300

/-- The blanks around a numeral leave out the four separators of ASCII. -/
def isNumeralBlank (c : Char) : Bool :=
  Text.isBlank c && !(0x1C ≤ c.toNat && c.toNat ≤ 0x1F)

/-- Characters without the blanks at both ends. -/
def trimNumeral (cs : List Char) : List Char :=
  ((cs.dropWhile isNumeralBlank).reverse.dropWhile isNumeralBlank).reverse

/-- Splits a sign off; true stands for minus. -/
def splitSign : List Char → Bool × List Char
  | '-' :: rest => (true, rest)
  | '+' :: rest => (false, rest)
  | cs => (false, cs)

/-- The value of a row of digits, the most significant first. -/
def digitsValue (base : Nat) (digits : List Nat) : Nat :=
  digits.foldl (fun value digit => value * base + digit) 0

/-- The digits that a text is made of, if it is made of digits alone. -/
def readDigits? (base : Nat) (cs : List Char) : Option (List Nat) :=
  cs.mapM (Text.digitInBase? base)

/-- Drops the mark that may stand before digits in base 2, 8 or 16. -/
def dropBaseMark (base : Nat) : List Char → List Char
  | '0' :: c :: rest =>
    if (base = 2 && (c = 'b' || c = 'B')) || (base = 8 && (c = 'o' || c = 'O')) ||
        (base = 16 && (c = 'x' || c = 'X')) then rest
    else '0' :: c :: rest
  | cs => cs

/-- Reads an integer in a base. Too many decimal digits are the fault even where something else follows
them. -/
def readInteger (base : Nat) (cs : List Char) : Except NumeralFault Int :=
  let (minus, rest) := splitSign (trimNumeral cs)
  let unmarked := dropBaseMark base rest
  let row := unmarked.takeWhile fun c => (Text.digitInBase? base c).isSome
  if base = 10 && digitLimit < row.length then .error (.tooLong row.length)
  else
    match readDigits? base unmarked with
    | none | some [] => .error (.notInteger base (String.ofList cs))
    | some digits =>
      let value : Int := digitsValue base digits
      .ok (if minus then -value else value)

/-- The decimal digit of ASCII that a digit of any script stands for; other characters are kept. -/
def plainDigit (c : Char) : Char :=
  match Text.digitValue? c with
  | some n => Char.ofNat ('0'.toNat + n)
  | none => c

/-- Reads the exponent part of a decimal; nothing is the exponent zero. -/
def readExponent? : List Char → Option Int
  | [] => some 0
  | c :: rest =>
    if c = 'e' || c = 'E' then
      let (minus, digits) := splitSign rest
      match readDigits? 10 digits with
      | none | some [] => none
      | some ds => some (if minus then -(digitsValue 10 ds : Int) else digitsValue 10 ds)
    else none

/-- Reads an unsigned decimal: digits, at most one point among them, and an exponent. -/
def readUnsigned? (minus : Bool) (cs : List Char) : Option Binary64 :=
  let whole := cs.takeWhile Char.isDigit
  let afterWhole := cs.dropWhile Char.isDigit
  let (fraction, afterFraction) :=
    match afterWhole with
    | '.' :: rest => (rest.takeWhile Char.isDigit, rest.dropWhile Char.isDigit)
    | rest => ([], rest)
  if whole.isEmpty && fraction.isEmpty then none
  else do
    let exponent ← readExponent? afterFraction
    let digits ← readDigits? 10 (whole ++ fraction)
    pure (Binary64.ofDecimal minus (digitsValue 10 digits) (exponent - fraction.length))

/-- Reads a decimal or one of the words for infinity and NaN. -/
def readDecimal (cs : List Char) : Except NumeralFault Binary64 :=
  let (minus, rest) := splitSign ((trimNumeral cs).map plainDigit)
  let word := String.ofList (rest.map Char.toLower)
  if word = "inf" || word = "infinity" then .ok (.infinite minus)
  else if word = "nan" then .ok .nan
  else
    match readUnsigned? minus rest with
    | some x => .ok x
    | none => .error (.notDecimal (String.ofList cs))

end CookbookRules.Number
