import CookbookRules.Registry
import CookbookRules.RuleFile.Schema

/-!
# From entries to rules

The rule that an entry describes is made as a whole before it is declared, so an entry that fails leaves
the registry as it was, unless it fails with an exit: this leaves the rule, as far as it was made, as the
current one. Entries are declared in their order, and those before a failing one stay.
-/

namespace CookbookRules.RuleFile

/-- Why an entry gives no rule. With an exit comes the rule that was being made. -/
inductive EntryFault
  | shape (fault : ShapeFault)
  | rule (fault : Rule.Fault)
  | matcher (code : String) (kind : Kind) (fault : StrategyFault) (line : Option Int)
  | raised (what : Raised)
  | exit (begun : Rule) (what : Raised)

/-- The wording of a fault. -/
def EntryFault.message : EntryFault → String
  | shape fault => fault.message
  | rule fault => fault.message
  | matcher code kind fault _ => s!"rule {code} {kind.name} matcher: {fault.message}"
  | raised what | exit _ what => what.message

/-- The registry that a fault leaves. -/
def EntryFault.leave (registry : Registry) : EntryFault → Registry
  | exit begun _ => (registry.begin begun).2
  | _ => registry

/-- What the fault of a description means for the entry that holds it, where its rule has been made as far as
the kind of the description. -/
def DescriptionFault.inEntry (rule : Rule) (kind : Kind) (line : Option Int) :
    DescriptionFault → EntryFault
  | shape fault => .shape fault
  | strategy fault => .matcher rule.label.shown kind fault line
  | escape (.error what) => .raised what
  | escape (.exit what) => .exit rule what

/-- Adds the matcher that an entry describes for a kind, if it does. -/
def withDescribed (catalog : Catalog) (entry : Value) (rule : Rule) (kind : Kind) :
    Except EntryFault Rule :=
  match entry.get? kind.name with
  | none | some .none => .ok rule
  | some description =>
    match buildMatcher catalog description with
    | .ok matcher => .ok (rule.withMatcher kind matcher)
    | .error fault => .error (fault.inEntry rule kind (lineOr description.line? entry.line?))

/-- The tags of an entry; what counts as false is none. -/
def entryTags (entry : Value) : Value :=
  match entry.get? "tags" with
  | some tags => if tags.isTruthy then tags else .list []
  | none => .list []

/-- The rule that an entry describes. -/
def compileEntry (catalog : Catalog) (source : String) (entry : Value) : Except EntryFault Rule := do
  let code ← (require "code" entry).mapError .shape
  let name ← (require "name" entry).mapError .shape
  let rule ← (Rule.create code name (some source) entry.line?).mapError .rule
  let tagged ← (rule.addTags (entryTags entry)).mapError .rule
  Kind.all.foldlM (withDescribed catalog entry) tagged

/-- Declares the rules of entries up to the first that fails. -/
def declareEntries (catalog : Catalog) (source : String) :
    List Value → Registry → Registry × Except EntryFault Unit
  | [], registry => (registry, .ok ())
  | entry :: rest, registry =>
    match compileEntry catalog source entry with
    | .ok rule => declareEntries catalog source rest (registry.declare rule).2
    | .error fault => (fault.leave registry, .error fault)

/-- Why a document is not compiled as a whole. A violation whose wording cannot be written is a fault of
its own. -/
inductive DocumentFault
  | schema (violation : Located Violation)
  | notWritable
  | entry (fault : EntryFault)

/-- The fault that a violation is. -/
def DocumentFault.ofViolation (violation : Located Violation) : DocumentFault :=
  if violation.cause.isWritable then .schema violation else .notWritable

/-- Checks a document and declares its rules; the answer is their number. -/
def compileDocument (catalog : Catalog) (document : Value) (source : String)
    (registry : Registry) : Registry × Except DocumentFault Nat :=
  match checkDocument document with
  | .error violation => (registry, .error (.ofViolation violation))
  | .ok entries =>
    match declareEntries catalog source entries registry with
    | (declared, .ok ()) =>
      (declared.note (.compiled entries.length source), .ok entries.length)
    | (declared, .error fault) => (declared, .error (.entry fault))

end CookbookRules.RuleFile
