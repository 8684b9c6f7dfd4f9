import CookbookRules.Value.Basic
import CookbookRules.Number.Numeral
import CookbookRules.Number.Shortest
import CookbookRules.Text.Quoted

/-!
# The text of a value

`form` is the form in which messages quote a value, with texts in quotes; `plainText` is the form in
which a value is sorted and inserted, where a text is itself and a date is written in the ISO order. An
integer with too many digits has neither, and no value that holds one has.
-/

namespace CookbookRules.Value

mutual

/-- The quoting form of a value. -/
def form : Value → String
  | none => "None"
  | bool b => if b then "True" else "False"
  | int n => toString n
  | float x => Number.plainLayout.render x
  | strayNan _ => Number.plainLayout.render .nan
  | text s => Text.quoted s
  | brokenText codes => Text.quotedCodes codes
  | kind k => s!"<ArtifactKind.{k.label}: {Text.quoted k.name}>"
  | bytes bs => Text.quotedBytes bs
  | date d => d.form
  | moment m => m.form
  | list items => "[" ++ String.intercalate ", " (forms items) ++ "]"
  | tuple items =>
    match forms items with
    | [one] => "(" ++ one ++ ",)"
    | all => "(" ++ String.intercalate ", " all ++ ")"
  | set items =>
    match forms items with
    | [] => "set()"
    | all => "\x7b" ++ String.intercalate ", " all ++ "\x7d"
  | iterator _ => "<list_iterator object>"
  | map _ entries => "\x7b" ++ String.intercalate ", " (entryForms entries) ++ "\x7d"
  | function id _ => s!"<function {id}>"
  | found metadata => "Match(metadata=" ++ form metadata ++ ")"
  | nothingFound => "NoMatch()"

/-- The quoting forms of items. -/
def forms : List Value → List String
  | [] => []
  | v :: rest => form v :: forms rest

/-- The quoting forms of entries: key, colon, value. -/
def entryForms : List (Value × Value) → List String
  | [] => []
  | (key, value) :: rest => (form key ++ ": " ++ form value) :: entryForms rest

end

mutual

/-- Whether all integers in a value are short enough to be written. -/
def isWritable : Value → Bool
  | int n => n.natAbs < Nat.pow 10 Number.digitLimit
  | list items | tuple items | set items => areWritable items
  | map _ entries => entriesWritable entries
  | found metadata => isWritable metadata
  | _ => true

/-- Whether all items are writable. -/
def areWritable : List Value → Bool
  | [] => true
  | v :: rest => isWritable v && areWritable rest

/-- Whether all keys and values are writable. -/
def entriesWritable : List (Value × Value) → Bool
  | [] => true
  | (key, value) :: rest => isWritable key && isWritable value && entriesWritable rest

end

/-- The wording where a value that cannot be written had to be. -/
def notWritableMessage : String :=
  "Exceeds the limit (4300 digits) for integer string conversion; " ++
    "use sys.set_int_max_str_digits() to increase the limit"

/-- The plain text of a value. -/
def plainText : Value → String
  | text s => s
  | brokenText codes => String.ofList (Text.mend codes)
  | kind k => s!"ArtifactKind.{k.label}"
  | date d => d.iso
  | moment m => m.iso " "
  | v => v.form

/-- The numbers that the plain text of a value is a row of. -/
def plainCodes : Value → List Nat
  | brokenText codes => codes
  | v => v.plainText.toList.map Char.toNat

/-- Values in the order of their plain texts; equal texts keep their order. -/
def sortByText (values : List Value) : List Value :=
  values.mergeSort fun a b => !b.plainCodes.lex a.plainCodes Nat.blt

/-- The quoting form of a list of values. -/
def listForm (values : List Value) : String :=
  (list values).form

end CookbookRules.Value
