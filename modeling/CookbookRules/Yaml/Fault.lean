import CookbookRules.Yaml.Cursor
import CookbookRules.Number.Numeral
import CookbookRules.Calendar

/-!
# Why a text cannot be read

A text is malformed at a mark, holds a character that is not allowed anywhere, or has a scalar that
cannot be the value that its tag asks for.
-/

namespace CookbookRules.Yaml

/-- Why a scalar has no value of its tag. -/
inductive ScalarFault
  | numeral (fault : Number.NumeralFault)
  | calendar (fault : Calendar.Fault)
  | notBoolean (word : String)
  | emptyNumber
  | tooManyParts
  | notTimestamp
  | notPlain
  | endless
  | noSuchCharacter (code : Nat)
  deriving DecidableEq, Repr

/-- The wording of a fault; a word that is no boolean is only quoted. -/
def ScalarFault.message : ScalarFault → String
  | .numeral fault => fault.message
  | .calendar fault => fault.message
  | .notBoolean word => Text.quoted word
  | .emptyNumber => "string index out of range"
  | .tooManyParts => "int too large to convert to float"
  | .notPlain => "expected string or bytes-like object, got 'list'"
  | .endless => "maximum recursion depth exceeded"
  | .notTimestamp => "'NoneType' object has no attribute 'groupdict'"
  | .noSuchCharacter code =>
    if code < 0x80000000 then "chr() arg not in range(0x110000)"
    else "Python int too large to convert to C int"

/-- Why a text cannot be read. -/
inductive Fault
  | notAllowed
  | malformed (mark : Mark)
  | scalar (fault : ScalarFault)
  deriving DecidableEq, Repr

/-- What stands for the wording of a malformed text: only its line is told. -/
def malformedWording : String := "<yaml>"

/-- The line that a fault points at, counted from one. -/
def Fault.line? (text : List Char) : Fault → Option Nat
  | .malformed mark => some (lineAt text mark)
  | .notAllowed | .scalar _ => none

end CookbookRules.Yaml
