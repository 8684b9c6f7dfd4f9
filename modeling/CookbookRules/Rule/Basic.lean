import CookbookRules.Rule.Matcher
import CookbookRules.TextSet
import CookbookRules.Value.Label

/-!
# Rules

A rule has a code, a name, tags that only grow, the place where it was declared, and at most one matcher
for each kind of artifact. What its author gives are dynamic values; each operation checks them before
it changes the rule.
-/

namespace CookbookRules

/-- A rule. The label is its code and the title its name, as they were given. -/
structure Rule where
  label : Label
  title : Label
  tags : TextSet
  source : Option String
  line : Option Int
  matchers : Matchers

namespace Rule

/-- The code that a rule is told apart by: codes that differ only in halves of surrogate pairs are one. -/
def code (rule : Rule) : String := rule.label.text

/-- The name of a rule. -/
def name (rule : Rule) : String := rule.title.text

/-- Why a declaration is refused. The fields of a fault are in the form in which its message shows them. -/
inductive Fault
  | blankCode (given : String)
  | nameNotText (code typeName : String)
  | tagNotText (code given : String)
  | tagsNotIterable (typeName : String)
  | unknownKind (given : String)
  | notCallable (code : String) (kind : Kind)
  | noCurrentRule
  deriving DecidableEq, Repr

/-- The wording of a fault. -/
def Fault.message : Fault → String
  | blankCode given => s!"Rule code must be a non-empty string, got {given}"
  | nameNotText code typeName => s!"Rule {code} name must be a string, got {typeName}"
  | tagNotText code given => s!"Rule {code} tags must be strings, got {given}"
  | tagsNotIterable typeName => s!"'{typeName}' object is not iterable"
  | unknownKind given =>
    let names := Value.listForm (Kind.all.map fun kind => .text kind.name)
    s!"Unknown artifact kind {given}; expected one of {names}"
  | notCallable code kind =>
    let name := kind.name
    s!"Rule {code} {name} matcher must be callable"
  | noCurrentRule => "No current rule: declare one with rule(code, name) first"

/-- A rule that has no tags and no matchers yet. -/
def create (code name : Value) (source : Option String) (line : Option Int) : Except Fault Rule :=
  match Label.ofValue? code with
  | none => .error (.blankCode code.form)
  | some label =>
    if Text.allBlank label.text then .error (.blankCode code.form)
    else
      match Label.ofValue? name with
      | none => .error (.nameNotText label.shown name.typeName)
      | some title => .ok ⟨label, title, .empty, source, line, .empty⟩

/-- The tags that a value gives: a text is one tag. As in codes, halves of surrogate pairs are not told apart. -/
def givenTags (code : String) (tags : Value) : Except Fault (List String) := do
  let items ←
    match tags.asText?, tags.items? with
    | some _, _ => pure [tags]
    | none, some items => pure items
    | none, none => throw (.tagsNotIterable tags.longTypeName)
  items.mapM fun item =>
    match item.asText? with
    | some tag => .ok tag
    | none => .error (.tagNotText code item.form)

/-- Adds tags. -/
def addTags (tags : Value) (rule : Rule) : Except Fault Rule := do
  let new ← givenTags rule.label.shown tags
  pure { rule with tags := rule.tags.insertAll new }

/-- The kind that a value names. -/
def kindOf : Value → Except Fault Kind
  | .kind kind => .ok kind
  | v =>
    match v.asText?.bind Kind.ofName? with
    | some kind => .ok kind
    | none => .error (.unknownKind v.form)

/-- Gives a kind a matcher. -/
def withMatcher (kind : Kind) (matcher : Matcher) (rule : Rule) : Rule :=
  { rule with matchers := rule.matchers.set kind matcher }

/-- Gives the named kind a callback as its matcher. -/
def setMatcher (kind callback : Value) (rule : Rule) : Except Fault Rule := do
  let kind ← kindOf kind
  match Matcher.ofValue? callback with
  | some matcher => pure (rule.withMatcher kind matcher)
  | none => throw (.notCallable rule.label.shown kind)

/-- The matcher of the named kind. -/
def matcher (kind : Value) (rule : Rule) : Except Fault (Option Matcher) := do
  pure (rule.matchers.get? (← kindOf kind))

/-- The kinds that have a matcher. -/
def kinds (rule : Rule) : List Kind := rule.matchers.kinds

/-- Calls the matcher of a kind on an artifact and reads what it returns, be it a finding already or not;
without a matcher, nothing is found. -/
def run (files : Files) (kind : Kind) (artifact : Value) (rule : Rule) :
    Except Matcher.Fault Finding :=
  match rule.matchers.get? kind with
  | some matcher => do
    (Finding.ofValue (← matcher.call files artifact)).mapError .finding
  | none => .ok .nothing

end Rule

end CookbookRules
