import CookbookRules.Value.Printer

/-!
# Labels

A text as its author gave it: as it is, broken, or by a kind whose name it is. A kind and its name are the
same text; they only look different where a message shows them.
-/

namespace CookbookRules

/-- A text, a broken one, or the name of a kind. -/
inductive Label
  | plain (s : String)
  | broken (codes : List Nat)
  | kind (k : Kind)
  deriving DecidableEq, Repr

namespace Label

/-- The text itself. Of a broken one it is the nearest text, in which halves of surrogate pairs are not told
apart. -/
def text : Label → String
  | plain s => s
  | broken codes => String.ofList (Text.mend codes)
  | kind k => k.name

/-- The number of characters, where a half of a surrogate pair counts as one. -/
def length : Label → Nat
  | broken codes => codes.length
  | label => label.text.length

/-- The value that was given. -/
def value : Label → Value
  | plain s => .text s
  | broken codes => .brokenText codes
  | kind k => .kind k

/-- The label that a value gives. -/
def ofValue? : Value → Option Label
  | .text s => some (plain s)
  | .brokenText codes => some (broken codes)
  | .kind k => some (kind k)
  | _ => none

/-- The label as messages insert it. -/
def shown (label : Label) : String := label.value.plainText

/-- The label as messages quote it. -/
def form (label : Label) : String := label.value.form

/-- A value gives a label exactly if it counts as a text, and then with that text. -/
theorem map_text_ofValue? (v : Value) : (ofValue? v).map text = v.asText? := by
  cases v <;> rfl

end Label

end CookbookRules
