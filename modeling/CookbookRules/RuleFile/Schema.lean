import CookbookRules.RuleFile.Strategy

/-!
# The schema of rule files

What a rule file may hold. `checkDocument` walks a document from the outside in and answers the first
violation, with the line of the mapping that the violation belongs to; a document without violations
answers its entries.
-/

namespace CookbookRules.RuleFile

/-- What is wrong with the description of a matcher. -/
inductive MatcherViolation
  | notMapping
  | badStrategy (given : Value)
  | unsupported (strategy : Strategy) (kind : Kind)
  | unknownKeys (strategy : Strategy) (keys : List Value)
  | missingKey (strategy : Strategy) (key : String)
  | blankKey (key : String)
  | badOptions

/-- What is wrong with an entry. -/
inductive EntryViolation
  | notMapping
  | unknownKeys (keys : List Value)
  | missingKey (key : String)
  | blankKey (key : String)
  | tagsNotList
  | badTag (given : Value)
  | matcher (kind : Kind) (violation : MatcherViolation)

/-- What is wrong with a document. -/
inductive Violation
  | notMapping (typeName : String)
  | strayMatchers (keys : List Value)
  | unknownKeys (keys : List Value)
  | missingKey (key : String)
  | badVersion (given : Value)
  | rulesNotList
  | entry (index : Int) (violation : EntryViolation)

/-! ## Wording -/

/-- Keys in the order of their texts, as messages show them. -/
def keysForm (keys : List Value) : String :=
  Value.listForm (Value.sortByText keys)

/-- Texts as messages show a list of them. -/
def textsForm (texts : List String) : String :=
  Value.listForm (texts.map .text)

/-- The wording for a matcher at a place. -/
def MatcherViolation.message (place : String) : MatcherViolation → String
  | notMapping => s!"{place} must be a mapping with a 'strategy'"
  | badStrategy given =>
    let names := textsForm (Strategy.all.map (·.name))
    s!"{place}.strategy must be one of {names}, got {given.form}"
  | unsupported strategy kind =>
    s!"{place}: strategy '{strategy.name}' does not support {kind.name} matchers"
  | unknownKeys strategy keys =>
    s!"{place}: unknown keys for strategy '{strategy.name}': {keysForm keys}"
  | missingKey strategy key => s!"{place}: strategy '{strategy.name}' requires '{key}'"
  | blankKey key => s!"{place}.{key} must be a non-empty string"
  | badOptions => s!"{place}.options must be a mapping with string keys"

/-- The field of a violation of a matcher at a place. -/
def MatcherViolation.field (place : String) : MatcherViolation → String
  | notMapping | unknownKeys .. => place
  | badStrategy _ | unsupported .. => s!"{place}.strategy"
  | missingKey _ key | blankKey key => s!"{place}.{key}"
  | badOptions => s!"{place}.options"

/-- The wording for an entry at a place. -/
def EntryViolation.message (place : String) : EntryViolation → String
  | notMapping => s!"{place} must be a mapping"
  | unknownKeys keys => s!"{place} has unknown keys: {keysForm keys}"
  | missingKey key => s!"{place} missing required key '{key}'"
  | blankKey key => s!"{place}.{key} must be a non-empty string"
  | tagsNotList => s!"{place}.tags must be a list of strings"
  | badTag given => s!"{place}.tags entries must be non-empty strings, got {given.form}"
  | matcher kind violation => violation.message s!"{place}.{kind.name}"

/-- The field of a violation of an entry at a place. -/
def EntryViolation.field (place : String) : EntryViolation → String
  | notMapping | unknownKeys _ => place
  | missingKey key | blankKey key => s!"{place}.{key}"
  | tagsNotList | badTag _ => s!"{place}.tags"
  | matcher kind violation => violation.field s!"{place}.{kind.name}"

/-- The place of an entry. -/
def entryPlace (index : Int) : String := s!"rules[{index}]"

/-- The wording of a violation. -/
def Violation.message : Violation → String
  | notMapping typeName => s!"rule file must be a mapping, got {typeName}"
  | strayMatchers keys =>
    s!"matcher {Value.listForm keys} declared outside a rule; nest it under an entry in 'rules'"
  | unknownKeys keys => s!"unknown top-level keys: {keysForm keys}"
  | missingKey key => s!"missing required key '{key}'"
  | badVersion given => s!"'version' must be 1, got {given.form}"
  | rulesNotList => "'rules' must be a list"
  | entry index violation => violation.message (entryPlace index)

/-- The field that a violation names. -/
def Violation.field : Violation → String
  | notMapping _ | unknownKeys _ => ""
  | strayMatchers keys => (keys.head?.bind Value.asText?).getD ""
  | missingKey key => key
  | badVersion _ => "version"
  | rulesNotList => "rules"
  | entry index violation => violation.field (entryPlace index)

/-! ## What can be written -/

/-- Whether the wording can be written: no integer that it quotes is too long. -/
def MatcherViolation.isWritable : MatcherViolation → Bool
  | badStrategy given => given.isWritable
  | unknownKeys _ keys => keys.all Value.isWritable
  | _ => true

/-- Whether the wording can be written. -/
def EntryViolation.isWritable : EntryViolation → Bool
  | unknownKeys keys => keys.all Value.isWritable
  | badTag given => given.isWritable
  | matcher _ violation => violation.isWritable
  | _ => true

/-- Whether the wording can be written. -/
def Violation.isWritable : Violation → Bool
  | unknownKeys keys => keys.all Value.isWritable
  | badVersion given => given.isWritable
  | entry _ violation => violation.isWritable
  | _ => true

/-! ## Checks -/

/-- A finding of a check with the line that it belongs to. -/
structure Located (α : Type) where
  cause : α
  line : Option Int

/-- A check answers the first violation, if there is one. -/
abbrev Check (α : Type) := Except (Located α)

/-- Reports a violation on a line. -/
def violated {α β : Type} (line : Option Int) (cause : α) : Check α β :=
  .error ⟨cause, line⟩

/-- Requires a condition. -/
def expect {α : Type} (holds : Bool) (line : Option Int) (cause : α) : Check α Unit :=
  if holds then .ok () else violated line cause

/-- Whether a value is a text with a character that is not blank. -/
def isFilledText (v : Value) : Bool :=
  v.asText?.any fun s => !Text.allBlank s

/-- The line that counts for a matcher: its own, unless that is unknown or zero. -/
def lineOr (own outer : Option Int) : Option Int :=
  match own with
  | some 0 | none => outer
  | some n => some n

/-- Whether options are a mapping with text keys. -/
def areOptions (v : Value) : Bool :=
  v.entries?.any fun entries => entries.all fun (key, _) => key.asText?.isSome

/-- Checks the keys of a description beside its strategy. -/
def checkParameters (strategy : Strategy) (description : Value) (line : Option Int) :
    Check MatcherViolation Unit := do
  let unknown := description.keysOutside ("strategy" :: strategy.allowedKeys)
  expect unknown.isEmpty line (.unknownKeys strategy unknown)
  let key := strategy.requiredKey
  match description.get? key with
  | none => violated line (.missingKey strategy key)
  | some value => expect (isFilledText value) line (.blankKey key)
  if let some options := description.get? "options" then
    expect (areOptions options) line .badOptions

/-- Checks the description of a matcher of a kind. -/
def checkMatcher (kind : Kind) (description : Value) (outer : Option Int) :
    Check MatcherViolation Unit := do
  expect description.isMap outer .notMapping
  let line := lineOr description.line? outer
  let given := (description.get? "strategy").getD .none
  match given.asText?.bind Strategy.ofName? with
  | none => violated line (.badStrategy given)
  | some strategy => do
    expect (strategy.supports kind) line (.unsupported strategy kind)
    checkParameters strategy description line

/-- Checks the tags of an entry. -/
def checkTags (tags : Value) (line : Option Int) : Check EntryViolation Unit :=
  match tags with
  | .list items =>
    match items.find? fun tag => !isFilledText tag with
    | some tag => violated line (.badTag tag)
    | none => .ok ()
  | _ => violated line .tagsNotList

/-- The keys that every entry has. -/
def requiredEntryKeys : List String := ["code", "name"]

/-- The keys that an entry may have. -/
def allowedEntryKeys : List String := requiredEntryKeys ++ "tags" :: Kind.all.map (·.name)

/-- Checks that a key is there and holds a text that is not blank. -/
def checkRequired (entry : Value) (line : Option Int) (key : String) : Check EntryViolation Unit :=
  match entry.get? key with
  | none => violated line (.missingKey key)
  | some value => expect (isFilledText value) line (.blankKey key)

/-- Checks the matcher of a kind, if the entry has one. -/
def checkKind (entry : Value) (line : Option Int) (kind : Kind) : Check EntryViolation Unit :=
  match entry.get? kind.name with
  | none => .ok ()
  | some description =>
    (checkMatcher kind description line).mapError fun found =>
      ⟨.matcher kind found.cause, found.line⟩

/-- Checks an entry; `outer` is the line of the mapping around it. -/
def checkEntry (entry : Value) (outer : Option Int) : Check EntryViolation Unit := do
  expect entry.isMap outer .notMapping
  let line := entry.line?
  let unknown := entry.keysOutside allowedEntryKeys
  expect unknown.isEmpty line (.unknownKeys unknown)
  requiredEntryKeys.forM (checkRequired entry line)
  if let some tags := entry.get? "tags" then checkTags tags line
  Kind.all.forM (checkKind entry line)

/-- The keys that a document may have. -/
def allowedKeys : List String := ["version", "rules"]

/-- The keys among some that belong into an entry, by name. They are the keys as given only where fewer
keys than kinds are unknown; else they are the names of the kinds. -/
def strayKeys (unknown : List Value) : List Value :=
  let isStray (key : Value) := (key.asText?.bind Kind.ofName?).isSome
  let found :=
    if unknown.length < Kind.all.length then unknown.filter isStray
    else
      (Kind.all.map fun kind => Value.text kind.name).filter fun name => unknown.any (·.same name)
  found.mergeSort fun a b => a.asText?.getD "" ≤ b.asText?.getD ""

/-- Checks the keys of a document. Keys that belong into an entry have a message of their own. -/
def checkKeys (document : Value) : Check Violation Unit := do
  let line := document.line?
  let unknown := document.keysOutside allowedKeys
  let stray := strayKeys unknown
  expect stray.isEmpty line (.strayMatchers stray)
  expect unknown.isEmpty line (.unknownKeys unknown)
  expect (document.get? "rules").isSome line (.missingKey "rules")
  if let some version := document.get? "version" then
    expect version.isOne line (.badVersion version)

/-- Checks the entries of a document in their order. -/
def checkEntries (entries : List Value) (outer : Option Int) : Check Violation Unit :=
  entries.zipIdx.forM fun (entry, index) =>
    (checkEntry entry outer).mapError fun found => ⟨.entry index found.cause, found.line⟩

/-- The entries of a document, if it has no violation. An empty document has none. -/
def checkDocument (document : Value) : Check Violation (List Value) :=
  match document with
  | .none => .ok []
  | .map .. => do
    checkKeys document
    match document.get? "rules" with
    | some (.list entries) => do
      checkEntries entries document.line?
      pure entries
    | some .none | none => pure []
    | some _ => violated document.line? .rulesNotList
  | other => violated Option.none (.notMapping other.typeName)

end CookbookRules.RuleFile
