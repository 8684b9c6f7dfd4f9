import CookbookRules.Yaml.Tag
import CookbookRules.Yaml.Fault
import CookbookRules.Value.Basic

/-!
# Values of scalars

What the text of a scalar stands for under each tag. A text that has no value of its tag is a fault of
the scalar alone; only base 64 without its padding is laid at the place of the node.
-/

namespace CookbookRules.Yaml.Scalar

open Number (Binary64)

/-- Characters without the underscores that group digits. -/
def withoutGaps (cs : List Char) : List Char :=
  cs.filter (· != '_')

/-- The truth value of a word, in any case. -/
def readBool (s : String) : Except ScalarFault Bool :=
  let word := Text.lower s
  match Tag.boolWords.lookup word with
  | some b => .ok b
  | none => .error (.notBoolean word)

/-- Reads an integer in a base. -/
def readBase (base : Nat) (cs : List Char) : Except ScalarFault Int :=
  (Number.readInteger base cs).mapError .numeral

/-- The value of parts in base 60, the most significant first. -/
def sexagesimal (parts : List Int) : Int :=
  parts.foldl (fun value part => value * 60 + part) 0

/-- Reads an integer without its sign: a mark or a leading zero gives the base, colons mean base 60. -/
def readUnsigned (cs : List Char) : Except ScalarFault Int :=
  match cs with
  | [] => .error .emptyNumber
  | ['0'] => .ok 0
  | '0' :: 'b' :: rest => readBase 2 rest
  | '0' :: 'x' :: rest => readBase 16 rest
  | '0' :: _ => readBase 8 cs
  | _ =>
    if cs.contains ':' then sexagesimal <$> (Text.splitOn (· == ':') cs).mapM (readBase 10)
    else readBase 10 cs

/-- Reads an integer. -/
def readInt (s : String) : Except ScalarFault Int :=
  let cs := withoutGaps s.toList
  match cs with
  | '-' :: rest => (-·) <$> readUnsigned rest
  | '+' :: rest => readUnsigned rest
  | _ => readUnsigned cs

/-- Reads a decimal. -/
def readDecimal (cs : List Char) : Except ScalarFault Binary64 :=
  (Number.readDecimal cs).mapError .numeral

/-- The sum of parts in base 60, added up from the least significant and rounded at each step. A place
whose weight is beyond all finite numbers is a fault. -/
def sexagesimalSum (parts : List Binary64) : Except ScalarFault Binary64 := do
  let weighted ← parts.reverse.zipIdx.mapM fun (part, place) =>
    match Binary64.ofInt (Nat.pow 60 place) with
    | .infinite _ => .error ScalarFault.tooManyParts
    | weight => .ok (part.mul weight)
  pure (weighted.foldl Binary64.add (.zero false))

/-- Reads a floating point number without its sign. -/
def readUnsignedFloat (cs : List Char) : Except ScalarFault Binary64 :=
  let word := String.ofList cs
  if word = ".inf" then .ok (.infinite false)
  else if word = ".nan" then .ok .nan
  else if cs.contains ':' then do
    sexagesimalSum (← (Text.splitOn (· == ':') cs).mapM readDecimal)
  else readDecimal cs

/-- Reads a floating point number. A NaN that is not spelled as the word of the format is one of its own,
known by the place that it is read at. -/
def readFloat (make : Nat) (s : String) : Except ScalarFault Value := do
  let cs := (Text.lower (String.ofList (withoutGaps s.toList))).toList
  let (minus, unsigned) ←
    match cs with
    | [] => .error ScalarFault.emptyNumber
    | _ => .ok (Number.splitSign cs)
  let x ← readUnsignedFloat unsigned
  if x = .nan && String.ofList unsigned != ".nan" then pure (.strayNan (some make))
  else pure (.float (if minus then x.neg else x))

/-- The microseconds that the digits of a fraction give: six digits count. -/
def microseconds (fraction : List Char) : Nat :=
  let digits := fraction.take 6
  Tag.digits (digits ++ List.replicate (6 - digits.length) '0')

/-- Reads a date or a moment. -/
def readTimestamp (s : String) : Except ScalarFault Value :=
  match Tag.readStamp? (Tag.dropLastBreak s.toList) with
  | none => .error .notTimestamp
  | some ⟨date, none, _⟩ => Value.date <$> date.check.mapError .calendar
  | some ⟨date, some (hour, minute, second, fraction), offset⟩ =>
    let moment : Calendar.Moment := ⟨date, hour, minute, second, microseconds fraction, offset⟩
    Value.moment <$> moment.check.mapError .calendar

/-! ## Base 64 -/

/-- The value of a digit of base 64. -/
def base64Digit? (c : Char) : Option Nat :=
  if 'A' ≤ c && c ≤ 'Z' then some (c.toNat - 'A'.toNat)
  else if 'a' ≤ c && c ≤ 'z' then some (c.toNat - 'a'.toNat + 26)
  else if '0' ≤ c && c ≤ '9' then some (c.toNat - '0'.toNat + 52)
  else if c = '+' then some 62
  else if c = '/' then some 63
  else none

/-- Reads base 64 from the middle of a group on: `place` digits of the group are read, `left` are the
bits still to be written, `pads` the padding so far. What is no digit is skipped, and padding ends the
text once it completes a group. -/
def base64From : (place left pads : Nat) → List Char → Option (List UInt8)
  | place, _, _, [] => if place = 0 then some [] else none
  | place, left, pads, c :: rest =>
    if c = '=' then
      if place < 2 then base64From place left pads rest
      else if 4 ≤ place + pads + 1 then some []
      else base64From place left (pads + 1) rest
    else
      match base64Digit? c with
      | none => base64From place left pads rest
      | some digit =>
        match place with
        | 0 => base64From 1 digit 0 rest
        | 1 => (UInt8.ofNat (left * 4 + digit / 16) :: ·) <$> base64From 2 (digit % 16) 0 rest
        | 2 => (UInt8.ofNat (left * 16 + digit / 4) :: ·) <$> base64From 3 (digit % 4) 0 rest
        | _ => (UInt8.ofNat (left * 64 + digit) :: ·) <$> base64From 0 0 0 rest

/-- Reads the bytes that a text in base 64 spells; only ASCII is allowed. -/
def readBinary? (s : String) : Option (List UInt8) :=
  if s.toList.all (·.toNat < 0x80) then base64From 0 0 0 s.toList else none

/-! ## All tags -/

/-- The value of a spelling under a tag for scalars; nothing if it is no base 64 or the tag is another one.
The number `make` tells apart what is read at different places. -/
def read (tag : Tag) (make : Nat) (spelling : Text.Spelling) : Except ScalarFault (Option Value) :=
  let s := spelling.text
  match tag with
  | .null => .ok (some .none)
  | .bool => (some ∘ Value.bool) <$> readBool s
  | .int => (some ∘ Value.int) <$> readInt s
  | .float => some <$> readFloat make s
  | .timestamp => some <$> readTimestamp s
  | .text => .ok (some (.ofSpelling spelling))
  | .binary => .ok (Value.bytes <$> readBinary? s)
  | _ => .ok none

end CookbookRules.Yaml.Scalar
