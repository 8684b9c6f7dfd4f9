import CookbookRules.Calendar
import CookbookRules.Kind
import CookbookRules.Number.Binary64
import CookbookRules.Text.Spelling

/-!
# Values

The dynamic values that rule files hold, that matchers are given and that they return. A mapping keeps
its entries in order of insertion and may know the line of the file that it starts on. There is one NaN
that is the same key wherever it stands; any other is a key of its own.
-/

namespace CookbookRules

/-- What a function of one argument does when it is called. -/
inductive Reply (α : Type)
  | returns (value : α)
  | echo
  | fails (message : String)
  deriving Repr

/-- Whether a mapping was read from a file, and on which line it starts where that is known. -/
inductive Origin
  | plain
  | located (line : Option Int)
  deriving DecidableEq, Repr

/-- A dynamic value. A broken text is a row of numbers with halves of surrogate pairs among them. A stray
NaN may tell what it was made of: two of one make are the same key. -/
inductive Value
  | none
  | bool (b : Bool)
  | int (n : Int)
  | float (x : Number.Binary64)
  | strayNan (make : Option Nat)
  | text (s : String)
  | brokenText (codes : List Nat)
  | kind (k : Kind)
  | bytes (bs : List UInt8)
  | date (d : Calendar.Date)
  | moment (m : Calendar.Moment)
  | list (items : List Value)
  | tuple (items : List Value)
  | set (items : List Value)
  | iterator (items : List Value)
  | map (origin : Origin) (entries : List (Value × Value))
  | function (id : String) (reply : Reply Value)
  | found (metadata : Value)
  | nothingFound

namespace Value

instance : Inhabited Value := ⟨none⟩

/-- The value of a spelling. -/
def ofSpelling : Text.Spelling → Value
  | .whole s => text s
  | .broken codes => brokenText codes

/-- A kind counts as the text of its name, and a broken text as the one nearest to it: two broken texts that
differ only in halves of surrogate pairs count as the same text. -/
def asText? : Value → Option String
  | text s => some s
  | brokenText codes => some (String.ofList (Text.mend codes))
  | kind k => some k.name
  | _ => Option.none

/-- The entries of a mapping. -/
def entries? : Value → Option (List (Value × Value))
  | map _ entries => some entries
  | _ => Option.none

/-- Whether a value is a mapping. -/
def isMap (v : Value) : Bool :=
  v.entries?.isSome

/-- The line that a mapping starts on, if it is known. -/
def line? : Value → Option Int
  | map (.located line) _ => line
  | _ => Option.none

/-- The name of a value's type. -/
def typeName : Value → String
  | none => "NoneType"
  | bool _ => "bool"
  | int _ => "int"
  | float _ | strayNan _ => "float"
  | text _ | brokenText _ => "str"
  | kind _ => "ArtifactKind"
  | bytes _ => "bytes"
  | date _ => "date"
  | moment _ => "datetime"
  | list _ => "list"
  | tuple _ => "tuple"
  | set _ => "set"
  | iterator _ => "list_iterator"
  | map .plain _ => "dict"
  | map (.located _) _ => "LocatedMapping"
  | function .. => "function"
  | found _ => "Match"
  | nothingFound => "NoMatch"

/-- The name of a value's type together with the module that it belongs to. -/
def longTypeName : Value → String
  | date _ => "datetime.date"
  | moment _ => "datetime.datetime"
  | v => v.typeName

/-- Whether a value counts as true where a condition is asked. -/
def isTruthy : Value → Bool
  | none | nothingFound => false
  | bool b => b
  | int n => n != 0
  | float x => !x.isZero
  | text s => !s.isEmpty
  | bytes bs => !bs.isEmpty
  | list items | tuple items | set items => !items.isEmpty
  | map _ entries => !entries.isEmpty
  | strayNan _ | brokenText _ | kind _ | date _ | moment _ | iterator _ | function .. | found _ => true

/-- The items of a value that can be walked through: a mapping gives its keys, a text its characters. -/
def items? : Value → Option (List Value)
  | list items | tuple items | set items | iterator items => some items
  | map _ entries => some (entries.map (·.1))
  | text s => some (s.toList.map fun c => text (String.ofList [c]))
  | brokenText codes => some (codes.map fun code => ofSpelling (.ofCodes [code]))
  | kind k => some (k.name.toList.map fun c => text (String.ofList [c]))
  | bytes bs => some (bs.map fun b => int b.toNat)
  | _ => Option.none

end Value

end CookbookRules
