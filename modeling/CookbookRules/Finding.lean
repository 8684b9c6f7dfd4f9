import CookbookRules.Value.Basic

/-!
# Findings

What a matcher has to say about an artifact: it found something, with metadata that tells where and why,
or nothing. Matchers may return plain values; `Finding.ofValue` gives each its meaning.
-/

namespace CookbookRules

/-- The result of running a matcher. -/
inductive Finding
  | found (metadata : Value)
  | nothing

namespace Finding

/-- Why a returned value has no meaning as a finding. -/
inductive Fault
  | unsupported (typeName : String)
  | itemNotMapping
  deriving DecidableEq, Repr

/-- The wording of a fault. -/
def Fault.message : Fault → String
  | .unsupported typeName => s!"Matcher returned unsupported value of type {typeName}"
  | .itemNotMapping => "Matcher returned a sequence containing non-mapping items"

/-- Whether something was found. -/
def isFound : Finding → Bool
  | found _ => true
  | nothing => false

/-- A finding as a value. -/
def toValue : Finding → Value
  | found metadata => .found metadata
  | nothing => .nothingFound

/-- Metadata as a mapping of its own, which knows no line. -/
def withoutLine (entries : List (Value × Value)) : Value :=
  .map .plain entries

/-- A sequence of mappings is found under one key; an empty one is no finding. -/
def ofItems (items : List Value) : Except Fault Finding :=
  if items.isEmpty then .ok nothing
  else
    match items.mapM Value.entries? with
    | some all =>
      .ok (found (withoutLine [(.text "matches", .list (all.map withoutLine))]))
    | none => .error .itemNotMapping

/-- The meaning of a returned value: nothing, false and empty collections are no finding, a mapping is
the metadata of one. -/
def ofValue : Value → Except Fault Finding
  | .found metadata => .ok (found metadata)
  | .nothingFound | .none | .bool false => .ok nothing
  | .bool true => .ok (found (withoutLine []))
  | .map _ entries => .ok (if entries.isEmpty then nothing else found (withoutLine entries))
  | .list items | .tuple items => ofItems items
  | v => .error (.unsupported v.typeName)

@[simp] theorem ofValue_toValue (finding : Finding) : ofValue finding.toValue = .ok finding := by
  cases finding <;> rfl

end Finding

end CookbookRules
