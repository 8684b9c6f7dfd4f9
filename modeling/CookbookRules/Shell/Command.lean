import CookbookRules.RuleFile.Load

/-!
# Commands of the rule shell

The vocabulary of the shell: declarations, changes to the current rule or to the rule of a builder, and
questions about the registry. A declaration may have a body, whose commands run while it is in progress.
-/

namespace CookbookRules.Shell

/-- What a declaration gives its rule. -/
structure Heading where
  code : Value
  name : Value
  source : Option String
  line : Option Int

/-- The item at an index; a negative one counts from the end. -/
def item? {α : Type} (items : List α) (index : Int) : Option α :=
  if 0 ≤ index then items[index.toNat]? else items.reverse[(-index).toNat - 1]?

/-- Which rule a change is for: the current one, or that of a builder by its index. -/
inductive Target
  | current
  | builder (index : Int)
  deriving DecidableEq, Repr

/-- A command. One that is `catching` keeps its failure from ending the body around it. -/
inductive Command
  | rule (heading : Heading)
  | ruleWith (heading : Heading) (body : List Command)
  | ruleGiven (heading : Heading) (body : Value)
  | raise (message : String)
  | interrupt
  | tags (target : Target) (tags : Value)
  | matcher (target : Target) (kind callback : Value)
  | builderForm (index : Int)
  | showBuilder (index : Int)
  | showRules
  | find (code : Value)
  | duplicates
  | count
  | names
  | clearCopy
  | runMatcher (index : Int) (kind artifact : Value)
  | select (expressions : List String)
  | listingText
  | listingJson
  | loadFile (path : String)
  | compileDocument (document : Value) (source : String)
  | compileEntry (entry : Value) (source : String)
  | catching (command : Command)

/-- Whether a failure of a command stays with the command. -/
def Command.catches : Command → Bool
  | catching _ => true
  | _ => false

/-- What a command answers. -/
inductive Answer
  | nothing
  | chained
  | declared (builder : Nat) (form : String)
  | callback (matcher : Matcher)
  | rule (rule : Rule)
  | rules (rules : List Rule)
  | place (index : Nat) (name : String)
  | text (s : String)
  | texts (items : List String)
  | count (n : Nat)
  | finding (finding : Finding)

/-- Why a command fails. -/
inductive Failure
  | rule (fault : Rule.Fault)
  | matcher (fault : Matcher.Fault)
  | entry (fault : RuleFile.EntryFault)
  | document (fault : RuleFile.DocumentFault)
  | file (failure : RuleFile.FileFailure)
  | raised (message : String)
  | interrupted
  | bodyNotCallable (typeName : String)
  | noSuchIndex

/-- Whether a failure is none that handlers of errors take, so that it ends everything that is in progress:
an interrupt, or the exit of a module that was imported for a file, a document or an entry. -/
def Failure.isInterrupt : Failure → Bool
  | interrupted | file (.exit _) | document (.entry (.exit ..)) | entry (.exit ..) => true
  | _ => false

/-- A builder as it is shown: with the label of its rule, quoted. -/
def builderForm (rule : Rule) : String := s!"RuleBuilder({rule.label.form})"

end CookbookRules.Shell
