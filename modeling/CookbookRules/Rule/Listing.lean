import CookbookRules.Json
import CookbookRules.Rule.Basic

/-!
# Listings

A list of rules as text, one aligned line for each rule, and as a JSON document with the schema that the
document conforms to.
-/

namespace CookbookRules.Listing

/-- A label with blanks up to a width. -/
def padded (width : Nat) (label : Label) : String :=
  label.text ++ String.ofList (List.replicate (width - label.length) ' ')

/-- Texts between commas, or a hyphen where that leaves nothing to see. -/
def commaList (items : List String) : String :=
  let all := String.intercalate ", " items
  if all.isEmpty then "-" else all

/-- The length of the longest code. -/
def codeWidth (rules : List Rule) : Nat :=
  (rules.map (·.label.length)).foldl max 0

/-- The line of a rule: code, name, tags and kinds. -/
def line (width : Nat) (rule : Rule) : String :=
  let tags := commaList rule.tags.toList
  let kinds := commaList (rule.kinds.map (·.name))
  s!"{padded width rule.label}  {rule.title.shown}  [{tags}]  ({kinds})"

/-- The lines of a listing: one for each rule, an empty one, and the count. -/
def lines (rules : List Rule) : List String :=
  rules.map (line (codeWidth rules)) ++ ["", s!"{rules.length} rule(s)"]

/-- The text of a listing. -/
def text (rules : List Rule) : String :=
  if rules.isEmpty then "No rules loaded." else String.intercalate "\n" (lines rules)

/-- A label as a text of a document. -/
def labelText : Label → Json
  | .broken codes => .brokenText codes
  | label => .text label.text

/-- A rule as an object. -/
def entry (rule : Rule) : Json :=
  .object
    [("code", labelText rule.label),
      ("name", labelText rule.title),
      ("tags", .list (rule.tags.toList.map .text)),
      ("kinds", .list (rule.kinds.map fun kind => .text kind.name)),
      ("source", (rule.source.map Json.text).getD .null),
      ("line", (rule.line.map Json.int).getD .null)]

/-- The version of the document's form. -/
def schemaVersion : String := "1"

/-- The document of a listing. -/
def document (rules : List Rule) : Json :=
  .object [("schema_version", .text schemaVersion), ("rules", .list (rules.map entry))]

/-- The text of the document. -/
def json (rules : List Rule) : String := (document rules).render

/-! ## The schema -/

/-- A schema for one type, with further constraints. -/
def typed (name : String) (constraints : List (String × Json)) : Json :=
  .object (("type", .text name) :: constraints)

/-- A schema for an object with exactly the given fields. -/
def closedObject (fields : List (String × Json)) : List (String × Json) :=
  [("type", .text "object"),
    ("additionalProperties", .bool false),
    ("required", .list (fields.map fun (name, _) => .text name)),
    ("properties", .object fields)]

/-- A schema for a list without repetitions. -/
def distinctList (items : Json) : Json :=
  typed "array" [("items", items), ("uniqueItems", .bool true)]

/-- A schema for a value of a type or null. -/
def orNull (name : String) (constraints : List (String × Json)) : Json :=
  .object (("type", .list [.text name, .text "null"]) :: constraints)

/-- The schema of a rule. -/
def entrySchema : Json :=
  .object (closedObject
    [("code", typed "string" [("minLength", .int 1)]),
      ("name", typed "string" []),
      ("tags", distinctList (typed "string" [])),
      ("kinds", distinctList
        (.object [("enum", .list (Kind.all.map fun kind => .text kind.name))])),
      ("source", orNull "string" []),
      ("line", orNull "integer" [("minimum", .int 1)])])

/-- The schema of a listing's document. -/
def schema : Json :=
  .object
    ([("$schema", .text "https://json-schema.org/draft/2020-12/schema"),
      ("title", .text "cookcritic rule listing")] ++
      closedObject
        [("schema_version", .object [("const", .text schemaVersion)]),
          ("rules", typed "array" [("items", entrySchema)])])

end CookbookRules.Listing
